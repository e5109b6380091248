import FlashSale.Text.Blank
import FlashSale.Text.Split
import Mathlib.Data.List.TakeWhile

/-! # Splitting what was joined

    Pieces without the separator are joined and come apart again as they were.
    After a separator there may be a margin, which stays with the piece. -/

namespace FlashSale.Text

variable {α : Type}

/-! ### At every separator -/

/-- A margin after the separator might as well be a part of the pieces. -/
theorem intercalate_margin (sep : α) (margin p : List α) (ps : List (List α)) :
    (sep :: margin).intercalate (p :: ps) = [sep].intercalate (p :: ps.map (margin ++ ·)) := by
  induction ps generalizing p with
  | nil => simp
  | cons q qs ih =>
    rw [List.map_cons, List.intercalate_cons_cons, List.intercalate_cons_cons, ih]
    cases qs with
    | nil => simp
    | cons r rs => simp [List.intercalate_cons_cons]

section

variable [BEq α] [LawfulBEq α] {sep : α}

/-- Splitting undoes joining. -/
theorem splitOn_intercalate_margin {margin p : List α} {ps : List (List α)}
    (hmargin : sep ∉ margin) (hp : sep ∉ p) (hps : ∀ q ∈ ps, sep ∉ q) :
    ((sep :: margin).intercalate (p :: ps)).splitOn sep = p :: ps.map (margin ++ ·) := by
  rw [intercalate_margin]
  refine List.splitOn_intercalate sep ?_ (List.cons_ne_nil _ _)
  simp only [List.forall_mem_cons, List.forall_mem_map, List.mem_append, not_or]
  exact ⟨hp, fun q hq => ⟨hmargin, hps q hq⟩⟩

/-- What is no separator belongs to the first piece. -/
theorem exists_splitOn_cons {c : α} (hc : c ≠ sep) (cs : List α) :
    ∃ piece pieces, cs.splitOn sep = piece :: pieces ∧
      (c :: cs).splitOn sep = (c :: piece) :: pieces := by
  obtain ⟨piece, pieces, hpieces⟩ := List.exists_cons_of_ne_nil (List.splitOn_ne_nil sep cs)
  refine ⟨piece, pieces, hpieces, ?_⟩
  rw [List.splitOn_cons_eq_if_modifyHead, if_neg (by simpa using hc), hpieces]
  rfl

theorem splitOn_cons_self (sep : α) (cs : List α) :
    (sep :: cs).splitOn sep = [] :: cs.splitOn sep :=
  List.splitOn_append_cons_self_of_not_mem List.not_mem_nil cs

end

/-- The pieces between the separators of a text. -/
structure IsSplit (sep : α) (text : List α) (pieces : List (List α)) : Prop where
  ne_nil : pieces ≠ []
  joined : text = [sep].intercalate pieces
  not_mem : ∀ piece ∈ pieces, sep ∉ piece

section

variable [BEq α] [LawfulBEq α] {sep : α} {text : List α}

theorem not_mem_of_mem_splitOn : ∀ piece ∈ text.splitOn sep, sep ∉ piece := by
  induction text with
  | nil => simp
  | cons c text ih =>
    by_cases hc : c = sep
    · rw [hc, splitOn_cons_self]
      exact List.forall_mem_cons.mpr ⟨List.not_mem_nil, ih⟩
    · obtain ⟨piece, pieces, hpieces, hcons⟩ := exists_splitOn_cons hc text
      rw [hpieces] at ih
      obtain ⟨hpiece, hothers⟩ := List.forall_mem_cons.mp ih
      rw [hcons]
      refine List.forall_mem_cons.mpr ⟨?_, hothers⟩
      simpa [hpiece] using Ne.symm hc

/-- The characters of a text are those of its pieces and the separators. -/
theorem forall_mem_splitOn_iff {p : α → Prop} :
    (∀ piece ∈ text.splitOn sep, ∀ c ∈ piece, p c) ↔ ∀ c ∈ text, c = sep ∨ p c := by
  induction text with
  | nil => simp
  | cons c text ih =>
    by_cases hc : c = sep
    · rw [hc, splitOn_cons_self, List.forall_mem_cons, List.forall_mem_cons, ih]
      simp
    · obtain ⟨piece, pieces, hpieces, hcons⟩ := exists_splitOn_cons hc text
      rw [hpieces] at ih
      rw [hcons, List.forall_mem_cons, List.forall_mem_cons, List.forall_mem_cons, ← ih,
        List.forall_mem_cons, and_assoc, or_iff_right hc]

theorem splitOn_eq_iff {pieces : List (List α)} :
    text.splitOn sep = pieces ↔ IsSplit sep text pieces := by
  constructor
  · rintro rfl
    exact ⟨List.splitOn_ne_nil sep text, (List.intercalate_splitOn sep).symm,
      not_mem_of_mem_splitOn⟩
  · intro h
    rw [h.joined, List.splitOn_intercalate sep h.not_mem h.ne_nil]

end

namespace IsSplit

variable {sep : α} {text margin p : List α} {ps : List (List α)}

/-- What is put in front belongs to the first piece. -/
theorem append_left (h : IsSplit sep text (p :: ps)) (hmargin : sep ∉ margin) :
    IsSplit sep (margin ++ text) ((margin ++ p) :: ps) where
  ne_nil := List.cons_ne_nil _ _
  joined := by
    rw [h.joined]
    cases ps with
    | nil => simp
    | cons q qs => simp [List.intercalate_cons_cons]
  not_mem := by
    obtain ⟨hp, hps⟩ := List.forall_mem_cons.mp h.not_mem
    refine List.forall_mem_cons.mpr ⟨?_, hps⟩
    simp [hmargin, hp]

/-- What is put behind belongs to the last one. -/
theorem append_right (h : IsSplit sep text (ps ++ [p])) (hmargin : sep ∉ margin) :
    IsSplit sep (text ++ margin) (ps ++ [p ++ margin]) where
  ne_nil := by simp
  joined := by
    rw [h.joined]
    clear h
    induction ps with
    | nil => simp
    | cons q qs ih =>
      cases qs with
      | nil => simp [List.intercalate_cons_cons]
      | cons r rs =>
        simp only [List.cons_append, List.intercalate_cons_cons, List.append_assoc] at ih ⊢
        rw [ih]
  not_mem := by
    intro piece hpiece
    rcases List.mem_append.mp hpiece with hpiece | hpiece
    · exact h.not_mem piece (List.mem_append_left _ hpiece)
    · rw [List.mem_singleton.mp hpiece]
      have hp : sep ∉ p := h.not_mem p (by simp)
      simp [hp, hmargin]

end IsSplit

/-! ### At the first separator -/

theorem splitFirst?_eq_some [DecidableEq α] {sep : α} {before : List α} (h : sep ∉ before) (rest : List α) :
    splitFirst? sep (before ++ sep :: rest) = some (before, rest) := by
  induction before with
  | nil => rw [List.nil_append, splitFirst?, if_pos rfl]
  | cons c cs ih =>
    simp only [List.mem_cons, not_or] at h
    rw [List.cons_append, splitFirst?, if_neg (Ne.symm h.1), ih h.2]
    rfl

theorem splitFirst?_eq_none [DecidableEq α] {sep : α} {cs : List α} (h : sep ∉ cs) :
    splitFirst? sep cs = none := by
  induction cs with
  | nil => rfl
  | cons c cs ih =>
    simp only [List.mem_cons, not_or] at h
    rw [splitFirst?, if_neg (Ne.symm h.1), ih h.2]
    rfl

/-- The text comes apart at the first separator, or there is none. -/
theorem splitFirst_eq_iff {α : Type} [DecidableEq α] {sep : α} {cs before after : List α} :
    splitFirst sep cs = (before, after) ↔
      sep ∉ before ∧ (cs = before ++ sep :: after ∨ cs = before ∧ after = []) := by
  constructor
  · intro h
    by_cases hmem : sep ∈ cs
    · obtain ⟨p, rest, rfl, hp⟩ := List.eq_append_cons_of_mem hmem
      rw [splitFirst, splitFirst?_eq_some hp] at h
      obtain ⟨rfl, rfl⟩ := Prod.mk.inj h
      exact ⟨hp, .inl rfl⟩
    · rw [splitFirst, splitFirst?_eq_none hmem] at h
      obtain ⟨rfl, rfl⟩ := Prod.mk.inj h
      exact ⟨hmem, .inr ⟨rfl, rfl⟩⟩
  · rintro ⟨hbefore, rfl | ⟨rfl, rfl⟩⟩
    · rw [splitFirst, splitFirst?_eq_some hbefore]
      rfl
    · rw [splitFirst, splitFirst?_eq_none hbefore]
      rfl

/-! ### At the last separator -/

theorem splitLast?_eq_some [DecidableEq α] {sep : α} {after : List α} (h : sep ∉ after)
    (before : List α) : splitLast? sep (before ++ sep :: after) = some (before, after) := by
  have hreverse : (before ++ sep :: after).reverse = after.reverse ++ sep :: before.reverse := by
    simp
  rw [splitLast?, hreverse, splitFirst?_eq_some (by rwa [List.mem_reverse])]
  simp

theorem splitLast?_eq_none [DecidableEq α] {sep : α} {cs : List α} (h : sep ∉ cs) :
    splitLast? sep cs = none := by
  rw [splitLast?, splitFirst?_eq_none (by rwa [List.mem_reverse])]
  rfl

/-- A separator that is there is there for the last time somewhere. -/
theorem exists_append_cons_not_mem {sep : α} {cs : List α} (h : sep ∈ cs) :
    ∃ before after, cs = before ++ sep :: after ∧ sep ∉ after := by
  obtain ⟨after, before, hreverse, hafter⟩ :=
    List.eq_append_cons_of_mem (List.mem_reverse.mpr h)
  refine ⟨before.reverse, after.reverse, ?_, by rwa [List.mem_reverse]⟩
  rw [← List.reverse_reverse cs, hreverse]
  simp

/-! ### White space -/

theorem not_mem_margin {c : Char} {margin : List Char} (h : ∀ c ∈ margin, isBlank c = true)
    (hc : isBlank c = false) : c ∉ margin := by
  intro hmem
  rw [h c hmem] at hc
  cases hc

/-- Nothing is cut off a text that neither starts nor ends with white space. -/
theorem trim_eq_self {cs : List Char} (hhead : ∀ c ∈ cs.head?, isBlank c = false)
    (hlast : ∀ c ∈ cs.getLast?, isBlank c = false) : trim cs = cs := by
  have hkept {ds : List Char} (h : ∀ c ∈ ds.head?, isBlank c = false) : ds.dropWhile isBlank = ds := by
    cases ds with
    | nil => rfl
    | cons d ds => rw [List.dropWhile_cons_of_neg (by simp [h d rfl])]
  rw [trim, trimWhile, hkept hhead, dropEndWhile, hkept, List.reverse_reverse]
  simpa using hlast

theorem trim_of_not_blank {cs : List Char} (h : ∀ c ∈ cs, isBlank c = false) : trim cs = cs :=
  trim_eq_self (fun c hc => h c (List.mem_of_mem_head? hc))
    fun c hc => h c (List.mem_of_mem_getLast? hc)

/-- A margin in front is cut off. -/
theorem trim_append {margin : List Char} (h : ∀ c ∈ margin, isBlank c = true) (cs : List Char) :
    trim (margin ++ cs) = trim cs := by
  rw [trim, trim, trimWhile, trimWhile, List.dropWhile_append_of_pos h]

/-- So is a margin behind. -/
theorem trim_append_right {margin : List Char} (h : ∀ c ∈ margin, isBlank c = true)
    (cs : List Char) : trim (cs ++ margin) = trim cs := by
  have hend (ds : List Char) : dropEndWhile isBlank (ds ++ margin) = dropEndWhile isBlank ds := by
    rw [dropEndWhile, dropEndWhile, List.reverse_append, List.dropWhile_append_of_pos (by simpa using h)]
  rw [trim, trim, trimWhile, trimWhile, List.dropWhile_append]
  split
  next hempty =>
    -- The margin is all that is left in front.
    rw [List.dropWhile_eq_nil_iff.mpr h, List.isEmpty_iff.mp hempty]
  next => exact hend _

/-- The side is the text, perhaps with white space around it. -/
def Padded (text side : List Char) : Prop :=
  ∃ front back, (∀ c ∈ front, isBlank c = true) ∧ (∀ c ∈ back, isBlank c = true) ∧
    side = front ++ text ++ back

theorem Padded.trim_eq {text side : List Char} (h : Padded text side) : trim side = trim text := by
  obtain ⟨front, back, hfront, hback, rfl⟩ := h
  rw [trim_append_right hback, trim_append hfront]

theorem Padded.not_mem {c : Char} {text side : List Char} (h : Padded text side)
    (hblank : isBlank c = false) (hc : c ∉ text) : c ∉ side := by
  obtain ⟨front, back, hfront, hback, rfl⟩ := h
  simp [not_mem_margin hfront hblank, not_mem_margin hback hblank, hc]

theorem padded_trim (cs : List Char) : Padded (trim cs) cs := by
  refine ⟨cs.takeWhile isBlank, ((cs.dropWhile isBlank).reverse.takeWhile isBlank).reverse, ?_, ?_, ?_⟩
  · intro c hc
    exact List.mem_takeWhile_imp hc
  · intro c hc
    exact List.mem_takeWhile_imp (List.mem_reverse.mp hc)
  · rw [trim, trimWhile, dropEndWhile, List.append_assoc, ← List.reverse_append,
      List.takeWhile_append_dropWhile, List.reverse_reverse, List.takeWhile_append_dropWhile]

theorem padded_of_trim_eq {text side : List Char} (h : trim side = text) : Padded text side :=
  h ▸ padded_trim side

theorem trim_trim (cs : List Char) : trim (trim cs) = trim cs :=
  (padded_trim cs).trim_eq.symm

theorem length_trim_le (cs : List Char) : (trim cs).length ≤ cs.length := by
  obtain ⟨front, back, -, -, hcs⟩ := padded_trim cs
  have hlength := congrArg List.length hcs
  rw [List.length_append, List.length_append] at hlength
  omega

/-- Nothing is cut off exactly if there is no white space at the ends. -/
theorem trim_eq_self_iff {cs : List Char} :
    trim cs = cs ↔
      (∀ c ∈ cs.head?, isBlank c = false) ∧ ∀ c ∈ cs.getLast?, isBlank c = false := by
  constructor
  · intro h
    -- What is shorter by a character is not as long after it is trimmed.
    have hkept {rest : List Char} (hrest : trim rest = trim cs) : cs.length ≤ rest.length := by
      rw [← h, ← hrest]
      exact length_trim_le rest
    constructor
    · intro c hc
      obtain ⟨rest, rfl⟩ := List.head?_eq_some_iff.mp hc
      by_contra hblank
      have hmargin : ∀ d ∈ [c], isBlank d = true := by simpa using hblank
      have hle := hkept (trim_append hmargin rest).symm
      rw [List.length_cons] at hle
      omega
    · intro c hc
      obtain ⟨rest, rfl⟩ := List.getLast?_eq_some_iff.mp hc
      by_contra hblank
      have hmargin : ∀ d ∈ [c], isBlank d = true := by simpa using hblank
      have hle := hkept (trim_append_right hmargin rest).symm
      rw [List.length_append, List.length_singleton] at hle
      omega
  · rintro ⟨hhead, hlast⟩
    exact trim_eq_self hhead hlast

theorem mem_of_mem_trim {c : Char} {cs : List Char} (h : c ∈ trim cs) : c ∈ cs := by
  obtain ⟨front, back, -, -, hcs⟩ := padded_trim cs
  rw [hcs]
  exact List.mem_append_left back (List.mem_append_right front h)

/-- Both ends of a text are trimmed apart from each other if something between
    them is no white space. -/
theorem trim_append_cons {c : Char} (hc : isBlank c = false) (before after : List Char) :
    trim (before ++ c :: after) = before.dropWhile isBlank ++ c :: dropEndWhile isBlank after := by
  have hstop (front back : List Char) :
      (front ++ c :: back).dropWhile isBlank = front.dropWhile isBlank ++ c :: back := by
    rw [List.dropWhile_append]
    split
    next hempty =>
      rw [List.isEmpty_iff.mp hempty, List.dropWhile_cons_of_neg (by simp [hc])]
      rfl
    next => rfl
  rw [trim, trimWhile, hstop, dropEndWhile, List.reverse_append, List.reverse_cons, List.append_assoc,
    List.singleton_append, hstop]
  simp [dropEndWhile]

theorem trim_dropWhile (cs : List Char) : trim (cs.dropWhile isBlank) = trim cs := by
  have hfront : ∀ c ∈ cs.takeWhile isBlank, isBlank c = true := fun c hc =>
    List.mem_takeWhile_imp hc
  rw [← trim_append hfront, List.takeWhile_append_dropWhile]

theorem trim_dropEndWhile (cs : List Char) : trim (dropEndWhile isBlank cs) = trim cs := by
  have hback : ∀ c ∈ (cs.reverse.takeWhile isBlank).reverse, isBlank c = true := by
    intro c hc
    exact List.mem_takeWhile_imp (List.mem_reverse.mp hc)
  rw [← trim_append_right hback, dropEndWhile, ← List.reverse_append,
    List.takeWhile_append_dropWhile, List.reverse_reverse]

/-- Trimming a text only trims its pieces. -/
theorem map_trim_splitOn_trim {sep : Char} (hsep : isBlank sep = false) (cs : List Char) :
    ((trim cs).splitOn sep).map trim = (cs.splitOn sep).map trim := by
  obtain ⟨front, back, hfront, hback, hcs⟩ := padded_trim cs
  have hleft : ((front ++ trim cs).splitOn sep).map trim = ((trim cs).splitOn sep).map trim := by
    obtain ⟨p, ps, hpieces⟩ := List.exists_cons_of_ne_nil (List.splitOn_ne_nil sep (trim cs))
    have hsplit := (splitOn_eq_iff.mp hpieces).append_left (not_mem_margin hfront hsep)
    rw [splitOn_eq_iff.mpr hsplit, hpieces, List.map_cons, List.map_cons, trim_append hfront]
  have hright : ((front ++ trim cs ++ back).splitOn sep).map trim =
      ((front ++ trim cs).splitOn sep).map trim := by
    obtain hnil | ⟨ps, p, hpieces⟩ := List.eq_nil_or_concat ((front ++ trim cs).splitOn sep)
    · exact absurd hnil (List.splitOn_ne_nil sep _)
    · rw [List.concat_eq_append] at hpieces
      have hsplit := (splitOn_eq_iff.mp hpieces).append_right (not_mem_margin hback hsep)
      rw [splitOn_eq_iff.mpr hsplit, hpieces, List.map_append, List.map_append, List.map_singleton,
        List.map_singleton, trim_append_right hback]
  rw [← hleft, ← hright, ← hcs]

/-- Nothing is left exactly of what is all white space. -/
theorem trim_eq_nil_iff {cs : List Char} : trim cs = [] ↔ ∀ c ∈ cs, isBlank c = true := by
  have hend (ds : List Char) : dropEndWhile isBlank ds = [] ↔ ∀ c ∈ ds, isBlank c = true := by
    simp [dropEndWhile, List.dropWhile_eq_nil_iff]
  constructor
  · intro h
    have hrest : ∀ c ∈ cs.dropWhile isBlank, isBlank c = true := (hend _).mp h
    cases hdrop : cs.dropWhile isBlank with
    | nil => exact List.dropWhile_eq_nil_iff.mp hdrop
    | cons d ds =>
      -- What is not dropped starts with what is no white space.
      have hhead := List.head_dropWhile_not isBlank (by simp [hdrop] : cs.dropWhile isBlank ≠ [])
      rw [hrest _ (List.head_mem _)] at hhead
      cases hhead
  · intro h
    have htrim := trim_append h []
    rwa [List.append_nil] at htrim

end FlashSale.Text
