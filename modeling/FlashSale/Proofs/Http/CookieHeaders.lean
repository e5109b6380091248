import FlashSale.Http.Cookie
import FlashSale.Proofs.Http.Pairs
import FlashSale.Proofs.Text.Escapes

/-! # What cookie headers tell

    A piece of a cookie header tells one pair, or it is malformed and tells
    nothing.  Pieces do not reach into each other: whatever malformed pieces
    stand between the pairs of a header, the pairs are read in their order.

    Pairs with every byte of both sides as an escape are told so, whatever
    characters they are made of. -/

namespace FlashSale.Http

open Text

variable {name value piece side text : List Char} {pair : String × String}

/-! ### Pieces -/

/-- A name may have the character as it is. -/
def KeptInName (c : Char) : Prop :=
  c ≠ '%' ∧ c ≠ '=' ∧ isBlank c = false

/-- A value may have the character as it is. -/
def KeptInValue (c : Char) : Prop :=
  c ≠ '%' ∧ isBlank c = false

instance (c : Char) : Decidable (KeptInName c) :=
  inferInstanceAs (Decidable (_ ∧ _ ∧ _))

instance (c : Char) : Decidable (KeptInValue c) :=
  inferInstanceAs (Decidable (_ ∧ _))

/-- The piece is the pair, with escapes for what may not be kept, and perhaps
    for more; there may be white space around both sides. -/
structure WritesPair (piece : List Char) (pair : String × String) : Prop where
  named : pair.1 ≠ ""
  written : ∃ name value nameSide valueSide, piece = nameSide ++ '=' :: valueSide ∧
    Percent.Encodes KeptInName pair.1.toList name ∧ Padded name nameSide ∧
    Percent.Encodes KeptInValue pair.2.toList value ∧ Padded value valueSide

/-- The bytes that the text has after its escapes are read are no UTF-8. -/
def NoText (text : List Char) : Prop :=
  ∃ bytes, Percent.Decodes id (utf8Encode text) bytes ∧ ∀ s, bytesOf s ≠ bytes

/-- The piece has no `=`, or before the first one no name, or one of its sides
    is no text. -/
def Malformed (piece : List Char) : Prop :=
  '=' ∉ piece ∨ ∃ name value nameSide valueSide, piece = nameSide ++ '=' :: valueSide ∧
    '=' ∉ nameSide ∧ Padded name nameSide ∧ Padded value valueSide ∧
    (name = [] ∨ NoText name ∨ NoText value)

/-! ### Headers -/

/-- The pieces tell the pairs, in their order; what is malformed between them
    tells nothing. -/
inductive Tells : List (List Char) → List (String × String) → Prop where
  | nil : Tells [] []
  | pair {piece : List Char} {pieces : List (List Char)} {pair : String × String}
    {pairs : List (String × String)} (writes : WritesPair piece pair) (rest : Tells pieces pairs) :
    Tells (piece :: pieces) (pair :: pairs)
  | malformed {piece : List Char} {pieces : List (List Char)} {pairs : List (String × String)}
    (tells_nothing : Malformed piece) (rest : Tells pieces pairs) : Tells (piece :: pieces) pairs

/-- The value of a header tells the pairs. -/
def HeaderTells (value : String) (pairs : List (String × String)) : Prop :=
  ∃ pieces, IsSplit ';' value.toList pieces ∧ Tells pieces pairs

/-! ### Sides -/

theorem decodeCookieText?_eq_none_iff : decodeCookieText? text = none ↔ NoText text := by
  have hnone (bytes : Bytes) : stringOf? bytes = none ↔ ∀ s, bytesOf s ≠ bytes := by
    rw [stringOf?, Option.map_eq_none_iff, utf8Decode?_eq_none_iff]
    constructor
    · intro h s
      exact h s.toList
    · intro h cs
      have hs := h (String.ofList cs)
      rwa [bytesOf, String.toList_ofList] at hs
  rw [decodeCookieText?, hnone]
  constructor
  · intro h
    exact ⟨_, Percent.decode_eq_iff.mp rfl, h⟩
  · rintro ⟨bytes, hbytes, h⟩
    rwa [Percent.decode_eq_iff.mpr hbytes]

/-- White space is no part of an escape. -/
theorem decode_padded (h : Padded text side) :
    ∃ front back, Percent.decode (utf8Encode side) =
      utf8Encode front ++ Percent.decode (utf8Encode text) ++ utf8Encode back := by
  obtain ⟨front, back, hfront, hback, rfl⟩ := h
  have hkept {margin : List Char} (hmargin : ∀ c ∈ margin, isBlank c = true) (rest : Bytes) :
      Percent.decode (utf8Encode margin ++ rest) = utf8Encode margin ++ Percent.decode rest := by
    apply Percent.decode_append_of_ne
    rintro b hb rfl
    have hsign : '%' ∈ margin := mem_of_mem_utf8Encode (by decide) hb
    exact not_mem_margin hmargin (by decide) hsign
  -- An unfinished escape before the margin is not finished by it.
  have hdigit : ∀ b ∈ (utf8Encode back).head?, hexByteValue? b = none := by
    intro b hb
    by_contra hvalue
    have hpart : Percent.IsPart (Char.ofNat b.toNat) := .inr (Option.isSome_iff_ne_none.mpr hvalue)
    have hbyte : UInt8.ofNat (Char.ofNat b.toNat).toNat = b := by
      have hlt := b.toNat_lt
      rw [Char.toNat, val_ofNat (by omega), UInt8.ofNat_toNat]
    have hmem : Char.ofNat b.toNat ∈ back := by
      apply mem_of_mem_utf8Encode hpart.ascii
      rw [hbyte]
      exact List.mem_of_mem_head? hb
    exact not_mem_margin hback hpart.not_blank hmem
  refine ⟨front, back, ?_⟩
  have hend := hkept hback []
  rw [List.append_nil] at hend
  rw [utf8Encode_append, utf8Encode_append, List.append_assoc, hkept hfront,
    Percent.decode_append hdigit, hend, List.append_assoc]
  simp [Percent.decode]

/-- What is no text is none either when white space is cut off. -/
theorem NoText.trim (h : NoText text) : NoText (trim text) := by
  obtain ⟨bytes, hbytes, hno⟩ := h
  refine ⟨_, Percent.decode_eq_iff.mp rfl, ?_⟩
  intro s hs
  -- Text between two margins is text.
  obtain ⟨front, back, hdecode⟩ := decode_padded (padded_trim text)
  apply hno (String.ofList (front ++ s.toList ++ back))
  rw [← Percent.decode_eq_iff.mpr hbytes, hdecode, ← hs, bytesOf, String.toList_ofList,
    utf8Encode_append, utf8Encode_append]
  rfl

theorem decodeCookieText?_encoded {kept : Char → Prop} {s : String}
    (h : Percent.Encodes kept s.toList text) (hkept : ∀ c, kept c → c ≠ '%') :
    decodeCookieText? text = some s := by
  rw [decodeCookieText?, h.decode_eq hkept]
  exact stringOf?_bytesOf s

/-! ### Pieces are read -/

/-- A piece with a `=` is read by what is left of both sides without the white
    space around them. -/
theorem decodeCookie?_pair (h : '=' ∉ name) (value : List Char) :
    decodeCookie? (name ++ '=' :: value) =
      if trim name = [] then none
      else (decodeCookieText? (trim name)).bind fun n =>
        (decodeCookieText? (trim value)).bind fun v => some (n, v) := by
  have hname : '=' ∉ name.dropWhile isBlank := fun hmem =>
    h (List.dropWhile_subset _ hmem)
  rw [decodeCookie?, trim_append_cons (by decide), splitFirst?_eq_some hname]
  simp only [Option.bind_eq_bind, Option.bind_some, trim_dropWhile, trim_dropEndWhile,
    List.isEmpty_iff]
  split
  · rfl
  · rfl

/-- Pieces are left out for being malformed, and for nothing else. -/
theorem decodeCookie?_eq_none_iff : decodeCookie? piece = none ↔ Malformed piece := by
  constructor
  · intro h
    by_cases hmem : '=' ∈ piece
    · obtain ⟨name, value, rfl, hname⟩ := List.eq_append_cons_of_mem hmem
      refine .inr ⟨_, _, name, value, rfl, hname, padded_trim name, padded_trim value, ?_⟩
      rw [decodeCookie?_pair hname] at h
      by_cases hempty : trim name = []
      · exact .inl hempty
      · rw [if_neg hempty] at h
        cases hfirst : decodeCookieText? (trim name) with
        | none => exact .inr (.inl (decodeCookieText?_eq_none_iff.mp hfirst))
        | some n =>
          cases hsecond : decodeCookieText? (trim value) with
          | none => exact .inr (.inr (decodeCookieText?_eq_none_iff.mp hsecond))
          | some v =>
            rw [hfirst, hsecond] at h
            cases h
    · exact .inl hmem
  · rintro (hmem | ⟨name, value, nameSide, valueSide, rfl, hequals, hname, hvalue, hno⟩)
    · -- There is no place at which it comes apart.
      have hmem' : '=' ∉ trim piece := fun h => hmem (mem_of_mem_trim h)
      rw [decodeCookie?, splitFirst?_eq_none hmem']
      rfl
    · rw [decodeCookie?_pair hequals, hname.trim_eq, hvalue.trim_eq]
      rcases hno with rfl | hno | hno
      · exact if_pos rfl
      · rw [decodeCookieText?_eq_none_iff.mpr hno.trim]
        exact ite_self none
      · rw [decodeCookieText?_eq_none_iff.mpr hno.trim]
        cases decodeCookieText? (trim name) with
        | none => exact ite_self none
        | some n => exact ite_self none

theorem WritesPair.decodeCookie?_eq (h : WritesPair piece pair) : decodeCookie? piece = some pair := by
  obtain ⟨hnamed, name, value, nameSide, valueSide, rfl, hname, hnameSide, hvalue, hvalueSide⟩ := h
  have hequals : '=' ∉ nameSide := by
    apply hnameSide.not_mem (by decide)
    intro hmem
    cases hname.isPart_or_kept _ hmem with
    | inl hpart => exact absurd hpart (by decide)
    | inr hkept => exact hkept.2.1 rfl
  have hfirst := decodeCookieText?_encoded hname fun c hkept => hkept.1
  have hsecond := decodeCookieText?_encoded hvalue fun c hkept => hkept.1
  have hnonempty : name ≠ [] := by
    -- Nothing is read as the empty name.
    rintro rfl
    have hread : some "" = some pair.1 := hfirst
    exact hnamed (Option.some.inj hread).symm
  rw [decodeCookie?_pair hequals, hnameSide.trim_eq, hvalueSide.trim_eq,
    trim_of_not_blank (hname.not_blank fun c hkept => hkept.2.2),
    trim_of_not_blank (hvalue.not_blank fun c hkept => hkept.2), if_neg hnonempty, hfirst, hsecond]
  rfl

/-! ### Headers are read -/

theorem Tells.filterMap_eq {pieces : List (List Char)} {pairs : List (String × String)}
    (h : Tells pieces pairs) : pieces.filterMap decodeCookie? = pairs := by
  induction h with
  | nil => rfl
  | pair writes _ ih => rw [List.filterMap_cons_some writes.decodeCookie?_eq, ih]
  | malformed tells_nothing _ ih =>
    rw [List.filterMap_cons_none (decodeCookie?_eq_none_iff.mpr tells_nothing), ih]

theorem decodeCookie?_trim (piece : List Char) : decodeCookie? (trim piece) = decodeCookie? piece := by
  rw [decodeCookie?, decodeCookie?, trim_trim]

/-- It does not matter that the white space around a header's value is cut off. -/
theorem decodeCookies_trimmed (value : String) : decodeCookies (trimmed value) = decodeCookies value := by
  have hpieces (pieces : List (List Char)) :
      pieces.filterMap decodeCookie? = (pieces.map trim).filterMap decodeCookie? := by
    -- White space around a piece is cut off in any case.
    simp only [List.filterMap_map, Function.comp_def, decodeCookie?_trim]
  rw [decodeCookies, decodeCookies, trimmed, String.toList_ofList, hpieces,
    map_trim_splitOn_trim (by decide), ← hpieces]

theorem HeaderTells.decodeCookies_eq {value : String} {pairs : List (String × String)}
    (h : HeaderTells value pairs) : decodeCookies (trimmed value) = pairs := by
  obtain ⟨pieces, hsplit, htells⟩ := h
  rw [decodeCookies_trimmed, decodeCookies, splitOn_eq_iff.mpr hsplit, htells.filterMap_eq]

/-- The values of several headers are read as the pairs of all of them. -/
theorem flatMap_decodeCookies_eq {values : List String} {groups : List (List (String × String))}
    (h : List.Forall₂ HeaderTells values groups) :
    (values.map trimmed).flatMap decodeCookies = groups.flatten := by
  induction h with
  | nil => rfl
  | cons hvalue _ ih =>
    rw [List.map_cons, List.flatMap_cons, hvalue.decodeCookies_eq, ih, List.flatten_cons]

/-! ### Pairs in escapes -/

/-- A pair in escapes is one way to write the pair. -/
theorem SpellsPair.writes {margin : List Char} (h : SpellsPair pair text) (hnamed : pair.1 ≠ "")
    (hmargin : ∀ c ∈ margin, isBlank c = true) : WritesPair (margin ++ text) pair := by
  obtain ⟨name, value, hname, hvalue, rfl⟩ := h
  refine ⟨hnamed, name, value, margin ++ name, value, (List.append_assoc _ _ _).symm,
    .of_spells hname, ?_, .of_spells hvalue, ?_⟩
  · exact ⟨margin, [], hmargin, by simp, by simp⟩
  · exact ⟨[], [], by simp, by simp, by simp⟩

theorem tells_spelled {pairs : List (String × String)} {pieces : List (List Char)}
    {margin : List Char} (h : List.Forall₂ SpellsPair pairs pieces)
    (hnames : ∀ pair ∈ pairs, pair.1 ≠ "") (hmargin : ∀ c ∈ margin, isBlank c = true) :
    Tells (pieces.map (margin ++ ·)) pairs := by
  induction h with
  | nil => exact .nil
  | cons hpiece _ ih =>
    obtain ⟨hname, hnames⟩ := List.forall_mem_cons.mp hnames
    exact .pair (hpiece.writes hname hmargin) (ih hnames)

theorem headerTells_spelled {pairs : List (String × String)} {value : String}
    (h : SpellsPairs [';', ' '] pairs value.toList) (hnames : ∀ pair ∈ pairs, pair.1 ≠ "") :
    HeaderTells value pairs := by
  obtain ⟨pieces, hpieces, hvalue⟩ := h
  have hsemicolon : ∀ piece ∈ pieces, ';' ∉ piece := by
    intro piece hpiece
    obtain ⟨pair, hpair⟩ := exists_of_mem_pieces hpieces piece hpiece
    exact hpair.not_mem (by decide) (by decide)
  rw [HeaderTells, hvalue]
  cases hpieces with
  | nil =>
    -- There is one piece even so, with nothing in it.
    exact ⟨[[]], splitOn_eq_iff.mp rfl, .malformed (.inl List.not_mem_nil) .nil⟩
  | @cons pair piece pairs pieces hpiece hpieces =>
    obtain ⟨hname, hnames⟩ := List.forall_mem_cons.mp hnames
    obtain ⟨hfirst, hothers⟩ := List.forall_mem_cons.mp hsemicolon
    have hmargin : ';' ∉ [' '] := by decide
    have hblank : ∀ c ∈ [' '], isBlank c = true := List.forall_mem_singleton.mpr (by decide)
    have hempty : ∀ c ∈ [], isBlank c = true := by simp
    exact ⟨_, splitOn_eq_iff.mp (splitOn_intercalate_margin hmargin hfirst hothers),
      .pair (hpiece.writes hname hempty) (tells_spelled hpieces hnames hblank)⟩

theorem forall₂_headerTells_spelled {groups : List (List (String × String))}
    {values : List String}
    (h : List.Forall₂ (fun group value => SpellsPairs [';', ' '] group value.toList) groups values)
    (hnames : ∀ pair ∈ groups.flatten, pair.1 ≠ "") : List.Forall₂ HeaderTells values groups := by
  induction h with
  | nil => exact .nil
  | cons hgroup _ ih =>
    rw [List.flatten_cons, List.forall_mem_append] at hnames
    exact .cons (headerTells_spelled hgroup hnames.1) (ih hnames.2)

/-- However pairs are spread, there are values of headers for them. -/
theorem exists_values (groups : List (List (String × String))) :
    ∃ values : List String,
      List.Forall₂ (fun group value => SpellsPairs [';', ' '] group value.toList) groups values := by
  choose text htext using exists_spellsPairs [';', ' ']
  refine ⟨groups.map fun group => String.ofList (text group), ?_⟩
  refine List.forall₂_map_right_iff.mpr (List.forall₂_same.mpr fun group _ => ?_)
  rw [String.toList_ofList]
  exact htext group

end FlashSale.Http
