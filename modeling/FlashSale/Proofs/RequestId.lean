import FlashSale.RequestId
import FlashSale.Proofs.Text.Percent
import FlashSale.Proofs.Text.Pieces
import Mathlib.Algebra.GroupWithZero.Nat

/-! # Reading back request ids

    The text that is written for an id is read as this id.  It has the digits of
    the id in lower case. -/

namespace FlashSale.RequestId

open Text

/-! ### Digits -/

theorem length_digits (id : RequestId) : id.digits.length = 32 := by
  simp [digits]

/-- The digits are hexadecimal digits. -/
theorem isSome_of_mem_digits {id : RequestId} {c : Char} (h : c ∈ id.digits) :
    (hexValue? c).isSome := by
  obtain ⟨i, -, rfl⟩ := List.mem_map.mp h
  rw [hexValue?_hexDigit (Nat.mod_lt _ (by decide))]
  rfl

/-- Continues a number by a digit. -/
def addDigit (n : Nat) (c : Char) : Option Nat :=
  (hexValue? c).map (16 * n + ·)

/-- The first digits of a number are read as what is left of it after as many
    shifts as there are further digits. -/
theorem foldlM_addDigit {n count : Nat} (hn : n < 2 ^ 128) (hcount : count ≤ 32) :
    ((List.range count).map fun i => hexDigit (n >>> (4 * (31 - i)) % 16)).foldlM addDigit 0 =
      some (n >>> (4 * (32 - count))) := by
  induction count with
  | zero =>
    have hnone : n >>> 128 = 0 := by
      rw [Nat.shiftRight_eq_div_pow, Nat.div_eq_of_lt hn]
    exact congrArg some hnone.symm
  | succ count ih =>
    have hdigit := Nat.mod_lt (n >>> (4 * (31 - count))) (show 16 > 0 by decide)
    -- One more digit is read, so four bits less are shifted out.
    have hshift : n >>> (4 * (32 - count)) = n >>> (4 * (31 - count)) / 16 := by
      rw [show 4 * (32 - count) = 4 * (31 - count) + 4 by omega, Nat.shiftRight_add]
      exact Nat.shiftRight_eq_div_pow _ 4
    rw [List.range_succ, List.map_append, List.foldlM_append, ih (by omega), hshift]
    simp only [List.map_cons, List.map_nil, List.foldlM_cons, List.foldlM_nil, addDigit,
      hexValue?_hexDigit hdigit, Option.bind_eq_bind, Option.bind_some, Option.map_some]
    rw [Nat.div_add_mod]
    simp

theorem ofDigits?_digits (id : RequestId) : ofDigits? id.digits = some id := by
  have hread := foldlM_addDigit id.bits.isLt (Nat.le_refl 32)
  rw [ofDigits?, if_pos id.length_digits]
  show (id.digits.foldlM addDigit 0).map ofNat = _
  rw [digits, hread]
  simp [ofNat]

/-! ### Groups -/

/-- Hyphens come to the digits. -/
theorem eq_or_mem_of_mem_hyphenate {ns : List Nat} {cs : List Char} {c : Char}
    (h : c ∈ hyphenate ns cs) : c = '-' ∨ c ∈ cs := by
  induction ns, cs using hyphenate.induct with
  | case1 cs => exact .inr h
  | case2 n cs => exact .inr h
  | case3 n ns cs hns ih =>
    rw [hyphenate.eq_3 _ _ _ hns, List.mem_append, List.mem_cons] at h
    rcases h with h | h | h
    · exact .inr (List.mem_of_mem_take h)
    · exact .inl h
    · exact (ih h).imp_right List.mem_of_mem_drop

/-- Digits in groups of lengths that add up come apart into these groups. -/
theorem splitOn_hyphenate {ns : List Nat} {cs : List Char} (hns : ns ≠ []) (hcs : '-' ∉ cs)
    (hlength : cs.length = ns.sum) :
    (hyphenate ns cs).length + 1 = cs.length + ns.length ∧
      ((hyphenate ns cs).splitOn '-').map List.length = ns ∧
      ((hyphenate ns cs).splitOn '-').flatten = cs := by
  induction ns, cs using hyphenate.induct with
  | case1 cs => exact absurd rfl hns
  | case2 n cs =>
    rw [hyphenate, List.splitOn_eq_singleton hcs]
    simpa using hlength
  | case3 n ns cs hrest ih =>
    rw [hyphenate.eq_3 _ _ _ hrest]
    rw [List.sum_cons] at hlength
    have hdrop : (cs.drop n).length = ns.sum := by rw [List.length_drop]; omega
    have htake : (cs.take n).length = n := by rw [List.length_take]; omega
    -- The first hyphen stands behind the first group; the others are among what is left.
    obtain ⟨hsize, hlengths, hpieces⟩ :=
      ih (by simpa using hrest) (fun h => hcs (List.mem_of_mem_drop h)) hdrop
    rw [List.splitOn_append_cons_self_of_not_mem (fun h => hcs (List.mem_of_mem_take h)),
      List.map_cons, htake, hlengths, List.flatten_cons, hpieces, List.take_append_drop]
    refine ⟨?_, rfl, rfl⟩
    rw [List.length_append, List.length_cons, List.length_cons, htake]
    omega

/-! ### Texts -/

/-- What is written for an id is read as the id. -/
theorem parse?_text (id : RequestId) : parse? id.text.toList = some id := by
  have hhyphen : '-' ∉ id.digits := fun h => absurd (isSome_of_mem_digits h) (by decide)
  obtain ⟨hsize, hlengths, hpieces⟩ :=
    splitOn_hyphenate (show groups ≠ [] by decide) hhyphen id.length_digits
  rw [length_digits] at hsize
  have hlength : id.text.toList.length = 36 := by
    rw [text, String.toList_ofList]
    exact Nat.succ.inj hsize
  rw [parse?, if_neg (by omega), if_pos hlength, text, String.toList_ofList]
  show (if _ then _ else _) = _
  rw [if_pos hlengths, hpieces, ofDigits?_digits]

/-- No character of the text is white space. -/
theorem not_blank_of_mem_text {id : RequestId} {c : Char} (h : c ∈ id.text.toList) :
    isBlank c = false := by
  rw [text, String.toList_ofList] at h
  cases eq_or_mem_of_mem_hyphenate h with
  | inl h =>
    subst h
    decide
  | inr h => exact Percent.IsPart.not_blank (.inr (isSome_of_mem_digits h))

/-- The text is the id in lower-case hexadecimal digits, in five groups with
    hyphens between them. -/
def IsHyphenated (id : RequestId) (text : String) : Prop :=
  ∃ pieces : List (List Char), pieces.map List.length = [8, 4, 4, 4, 12] ∧
    (∀ c ∈ pieces.flatten, c ∈ "0123456789abcdef".toList) ∧ ofDigits? pieces.flatten = some id ∧
    text.toList = ['-'].intercalate pieces

theorem mem_lowerCase_of_mem_digits {id : RequestId} {c : Char} (h : c ∈ id.digits) :
    c ∈ "0123456789abcdef".toList := by
  obtain ⟨i, -, rfl⟩ := List.mem_map.mp h
  have hdigit : ∀ n < 16, hexDigit n ∈ "0123456789abcdef".toList := by decide
  exact hdigit _ (Nat.mod_lt _ (by decide))

theorem isHyphenated_text (id : RequestId) : id.IsHyphenated id.text := by
  have hhyphen : '-' ∉ id.digits := fun h => absurd (isSome_of_mem_digits h) (by decide)
  obtain ⟨-, hlengths, hpieces⟩ :=
    splitOn_hyphenate (show groups ≠ [] by decide) hhyphen id.length_digits
  refine ⟨(hyphenate groups id.digits).splitOn '-', hlengths, ?_, ?_, ?_⟩
  · rw [hpieces]
    exact fun c => mem_lowerCase_of_mem_digits
  · rw [hpieces, ofDigits?_digits]
  · rw [text, String.toList_ofList, List.intercalate_splitOn]

end FlashSale.RequestId
