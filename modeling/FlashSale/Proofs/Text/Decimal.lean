import FlashSale.Proofs.Outcome
import FlashSale.Text.Decimal
import Mathlib.Data.List.Basic

/-! # Numbers and how they are spelled

    A number can be spelled in more than one way: zeros in front change
    nothing, and neither does one `+`.  Reading a number without sign is
    finding out what is spelled, and refusing what leaves the range. -/

namespace FlashSale.Text

/-- Continues a number by decimal digits. -/
def digitsValue (value : Nat) (digits : List Char) : Nat :=
  digits.foldl (fun value c => 10 * value + (c.toNat - '0'.toNat)) value

/-- The number that decimal digits stand for, if there is at least one. -/
def natural? (digits : List Char) : Option Nat :=
  if digits ≠ [] ∧ digits.all Char.isDigit then some (digitsValue 0 digits) else none

/-- The number that a text spells: digits, with one `+` before them or none. -/
def numeral? (text : List Char) : Option Nat :=
  natural? (if text.head? = some '+' then text.tail else text)

/-- The integer that a text spells: a number, or digits with a `-` before
    them. -/
def signedNumeral? (text : List Char) : Option Int :=
  if text.head? = some '-' then (natural? text.tail).map fun n : Nat => -(n : Int)
  else (numeral? text).map fun n : Nat => (n : Int)

theorem le_digitsValue (value : Nat) (digits : List Char) : value ≤ digitsValue value digits := by
  induction digits generalizing value with
  | nil => exact Nat.le_refl _
  | cons c cs ih =>
    have := ih (10 * value + (c.toNat - '0'.toNat))
    simp only [digitsValue, List.foldl_cons] at this ⊢
    omega

theorem digit?_eq (c : Char) : digit? c = if c.isDigit then some (c.toNat - '0'.toNat) else none := by
  unfold digit? Char.isDigit
  simp [Char.le_def, UInt32.le_iff_toNat_le]

/-- A number never gets smaller by further digits, so it leaves the bound at
    some digit exactly if it is out of bounds in the end. -/
theorem readDigits_eq_ok_iff {bound : Nat} {excess : IntegerFault} {value n : Nat} {cs : List Char}
    (hvalue : value ≤ bound) :
    readDigits bound excess value cs = .ok n ↔
      cs.all Char.isDigit ∧ digitsValue value cs = n ∧ n ≤ bound := by
  induction cs generalizing value with
  | nil =>
    simp only [readDigits, Except.ok.injEq, List.all_nil, digitsValue, List.foldl_nil, true_and]
    constructor
    · rintro rfl
      exact ⟨rfl, hvalue⟩
    · exact fun h => h.1
  | cons c cs ih =>
    simp only [readDigits, digit?_eq, List.all_cons, Bool.and_eq_true]
    by_cases hc : c.isDigit
    · simp only [hc, if_true, true_and]
      have hcons : digitsValue value (c :: cs) =
          digitsValue (10 * value + (c.toNat - '0'.toNat)) cs := rfl
      have hle := le_digitsValue (10 * value + (c.toNat - '0'.toNat)) cs
      split
      · next hout =>
        -- Out of bounds here, and so in the end.
        simp only [reduceCtorEq, false_iff]
        rintro ⟨-, rfl, hn⟩
        omega
      · next hin =>
        rw [ih (by omega), hcons]
    · simp [hc]

theorem readMagnitude_eq_ok_iff {bound : Nat} {excess : IntegerFault} {n : Nat} {cs : List Char} :
    readMagnitude bound excess cs = .ok n ↔ natural? cs = some n ∧ n ≤ bound := by
  cases cs with
  | nil => simp [readMagnitude, natural?]
  | cons c cs =>
    rw [readMagnitude, readDigits_eq_ok_iff (Nat.zero_le bound), natural?]
    · by_cases h : (c :: cs).all Char.isDigit
      · simp [h]
      · simp [h]
    · simp

theorem readNatural_eq_ok_iff {max n : Nat} {text : List Char} :
    readNatural max text = .ok n ↔ numeral? text = some n ∧ n ≤ max := by
  unfold readNatural numeral?
  split
  · simp [natural?]
  · simp [readMagnitude_eq_ok_iff]
  · next hnil hplus =>
    -- Nothing to skip, so the digits are the text itself.
    have hhead : text.head? ≠ some '+' := by
      cases text with
      | nil => simp
      | cons c cs =>
        intro h
        obtain rfl : c = '+' := by simpa using h
        exact hplus cs rfl
    simp [readMagnitude_eq_ok_iff, hhead]

/-- Words of a size hold exactly the numbers below it, so a text is read as a word
    exactly if it spells its number. -/
theorem map_readNatural_eq_ok_iff {α : Type} {size : Nat} {ofNat : Nat → α} {toNat : α → Nat}
    (hlt : ∀ a, toNat a < size) (hto : ∀ n < size, toNat (ofNat n) = n)
    (hof : ∀ a, ofNat (toNat a) = a) {text : List Char} {a : α} :
    (readNatural (size - 1) text).map ofNat = .ok a ↔ numeral? text = some (toNat a) := by
  have hsize := hlt a
  rw [map_eq_ok_iff]
  constructor
  · intro h
    obtain ⟨n, hread, rfl⟩ := h
    obtain ⟨hn, hle⟩ := readNatural_eq_ok_iff.mp hread
    rw [hto n (by omega), hn]
  · intro h
    exact ⟨toNat a, readNatural_eq_ok_iff.mpr ⟨h, by omega⟩, hof a⟩

/-- A text is read as a 64-bit number without sign exactly if it spells it. -/
theorem readUInt64_eq_ok_iff {text : List Char} {n : UInt64} :
    readUInt64 text = .ok n ↔ numeral? text = some n.toNat :=
  map_readNatural_eq_ok_iff UInt64.toNat_lt_size (fun _ h => UInt64.toNat_ofNat_of_lt' h)
    fun _ => UInt64.ofNat_toNat

theorem readUInt32_eq_ok_iff {text : List Char} {n : UInt32} :
    readUInt32 text = .ok n ↔ numeral? text = some n.toNat :=
  map_readNatural_eq_ok_iff UInt32.toNat_lt_size (fun _ h => UInt32.toNat_ofNat_of_lt' h)
    fun _ => UInt32.ofNat_toNat

theorem readUInt16_eq_ok_iff {text : List Char} {n : UInt16} :
    readUInt16 text = .ok n ↔ numeral? text = some n.toNat :=
  map_readNatural_eq_ok_iff UInt16.toNat_lt_size (fun _ h => UInt16.toNat_ofNat_of_lt' h)
    fun _ => UInt16.ofNat_toNat

/-! ### Numbers with a sign -/

theorem map_readMagnitude_eq_ok_iff {bound : Nat} {excess : IntegerFault} {cs : List Char}
    {f : Nat → Int} {i : Int} :
    (readMagnitude bound excess cs).map f = .ok i ↔
      ∃ n, natural? cs = some n ∧ n ≤ bound ∧ f n = i := by
  simp only [map_eq_ok_iff, readMagnitude_eq_ok_iff, and_assoc]

theorem readSigned_eq_ok_iff {max : Nat} {text : List Char} {i : Int} :
    readSigned max text = .ok i ↔ signedNumeral? text = some i ∧ -(max + 1 : Int) ≤ i ∧ i ≤ max := by
  unfold readSigned signedNumeral? numeral?
  split
  · simp [natural?]
  · next cs =>
    rw [map_readMagnitude_eq_ok_iff]
    simp only [List.head?_cons, Option.some.injEq, Char.reduceEq, if_false, if_true,
      List.tail_cons, Option.map_eq_some_iff]
    constructor
    · rintro ⟨n, hn, hle, rfl⟩
      exact ⟨⟨n, hn, rfl⟩, by simp; omega⟩
    · rintro ⟨⟨n, hn, rfl⟩, -, hle⟩
      exact ⟨n, hn, by omega, rfl⟩
  · next cs =>
    rw [map_readMagnitude_eq_ok_iff]
    simp only [List.head?_cons, if_true, List.tail_cons, Option.map_eq_some_iff]
    constructor
    · rintro ⟨n, hn, hle, rfl⟩
      exact ⟨⟨n, hn, rfl⟩, by simp; omega⟩
    · rintro ⟨⟨n, hn, rfl⟩, hle, -⟩
      exact ⟨n, hn, by omega, rfl⟩
  · next hnil hplus hminus =>
    have hhead {c : Char} (h : ∀ cs, text ≠ c :: cs) : text.head? ≠ some c := by
      intro hc
      obtain ⟨cs, rfl⟩ := List.head?_eq_some_iff.mp hc
      exact h cs rfl
    rw [map_readMagnitude_eq_ok_iff, if_neg (hhead hminus), if_neg (hhead hplus)]
    simp only [Option.map_eq_some_iff]
    constructor
    · rintro ⟨n, hn, hle, rfl⟩
      exact ⟨⟨n, hn, rfl⟩, by simp; omega⟩
    · rintro ⟨⟨n, hn, rfl⟩, -, hle⟩
      exact ⟨n, hn, by omega, rfl⟩

/-- A text is read as a 64-bit number with sign exactly if it spells it. -/
theorem readInt64_eq_ok_iff {text : List Char} {n : Int64} :
    readInt64 text = .ok n ↔ signedNumeral? text = some n.toInt := by
  have hlow := n.le_toInt
  have hhigh := n.toInt_lt
  have hmax : ((Int64.size / 2 - 1 : Nat) : Int) = 2 ^ 63 - 1 := rfl
  rw [readInt64, map_eq_ok_iff]
  constructor
  · intro h
    obtain ⟨i, hread, rfl⟩ := h
    obtain ⟨hi, hle, hge⟩ := readSigned_eq_ok_iff.mp hread
    rw [hmax] at hle hge
    rw [hi, Int64.toInt_ofInt_of_le (by omega) (by omega)]
  · intro h
    refine ⟨n.toInt, ?_, Int64.ofInt_toInt n⟩
    rw [readSigned_eq_ok_iff, hmax]
    exact ⟨h, by omega, by omega⟩

/-! ### Digits that are written -/

/-- The digits are in one range. -/
theorem range_of_isDigit {c : Char} (h : c.isDigit) : 48 ≤ c.toNat ∧ c.toNat ≤ 57 := by
  simp only [Char.isDigit, Bool.and_eq_true, decide_eq_true_eq] at h
  exact ⟨UInt32.le_iff_toNat_le.mp h.1, UInt32.le_iff_toNat_le.mp h.2⟩

theorem isDigit_of_mem_decimal {n : Nat} {c : Char} (h : c ∈ decimal n) : c.isDigit :=
  Nat.isDigit_of_mem_toDigits (by decide) (by decide) h

/-- The digits of a number stand for it. -/
theorem natural?_decimal (n : Nat) : natural? (decimal n) = some n := by
  have hdigits : (decimal n).all Char.isDigit = true :=
    List.all_eq_true.mpr fun c hc => isDigit_of_mem_decimal hc
  have hvalue : digitsValue 0 (decimal n) = n := Nat.ofDigitChars_ten_toDigits
  rw [natural?, if_pos ⟨Nat.toDigits_ne_nil, hdigits⟩, hvalue]

theorem natText_inj {m n : Nat} : natText m = natText n ↔ m = n := by
  constructor
  · intro h
    have hdigits : decimal m = decimal n := String.ofList_injective h
    have hread := natural?_decimal m
    rw [hdigits, natural?_decimal] at hread
    exact (Option.some.inj hread).symm
  · intro h
    rw [h]

/-- Only of zero the first digit is a zero. -/
theorem exists_decimal_eq_cons {n : Nat} (h : n ≠ 0) :
    ∃ c cs, decimal n = c :: cs ∧ c ≠ '0' := by
  unfold decimal
  induction n using Nat.strongRecOn with
  | ind n ih =>
    by_cases hsmall : n < 10
    · refine ⟨n.digitChar, [], Nat.toDigits_of_lt_base hsmall, ?_⟩
      rw [ne_eq, Nat.digitChar_eq_zero]
      exact h
    · -- The last digit is put behind those of a smaller number.
      obtain ⟨c, cs, hfirst, hc⟩ := ih (n / 10) (by omega) (by omega)
      refine ⟨c, cs ++ [Nat.digitChar (n % 10)], ?_, hc⟩
      rw [Nat.toDigits_of_base_le (by decide) (by omega), hfirst, List.cons_append]

/-- The text of an integer spells it. -/
theorem signedNumeral?_decimalInt (i : Int) : signedNumeral? (decimalInt i) = some i := by
  unfold signedNumeral? decimalInt
  by_cases hi : i < 0
  · rw [if_pos hi, List.head?_cons, if_pos rfl, List.tail_cons, natural?_decimal]
    simp only [Option.map_some, Option.some.injEq]
    omega
  · have hhead {c : Char} (hc : c.isDigit = false) : (decimal i.natAbs).head? ≠ some c := by
      intro h
      rw [isDigit_of_mem_decimal (List.mem_of_mem_head? h)] at hc
      cases hc
    rw [if_neg hi, if_neg (hhead rfl), numeral?, if_neg (hhead rfl), natural?_decimal]
    simp only [Option.map_some, Option.some.injEq]
    omega

end FlashSale.Text
