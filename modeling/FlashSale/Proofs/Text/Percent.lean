import FlashSale.Text.Blank
import FlashSale.Text.Percent
import FlashSale.Proofs.Text.Utf8

/-! # Text in escapes

    A text spells bytes if it has one escape for each of them, with digits of
    either case.  It is read back as these bytes, no `%` in it is broken, and
    it holds no character that means something around it. -/

namespace FlashSale.Text

/-! ### Hexadecimal digits -/

/-- The value of a digit that is written is read back. -/
theorem hexValue?_hexDigit {n : Nat} (h : n < 16) : hexValue? (hexDigit n) = some n := by
  revert n
  decide

/-- The digits are in three ranges. -/
theorem range_of_hexValue?_eq_some {c : Char} {n : Nat} (h : hexValue? c = some n) :
    48 ≤ c.toNat ∧ c.toNat ≤ 57 ∨ 65 ≤ c.toNat ∧ c.toNat ≤ 70 ∨ 97 ≤ c.toNat ∧ c.toNat ≤ 102 := by
  unfold hexValue? at h
  split at h
  case isTrue hc => exact .inl hc
  split at h
  case isTrue hc => exact .inr (.inr hc)
  split at h
  case isTrue hc => exact .inr (.inl hc)
  case isFalse => cases h

namespace Percent

/-! ### Texts that spell bytes -/

/-- The text has one escape for each byte. -/
inductive Spells : Bytes → List Char → Prop where
  | nil : Spells [] []
  | cons {b : UInt8} {bs : Bytes} {high low : Char} {text : List Char}
    (high_eq : hexValue? high = some (b.toNat / 16)) (low_eq : hexValue? low = some (b.toNat % 16))
    (rest : Spells bs text) : Spells (b :: bs) ('%' :: high :: low :: text)

/-- Decides whether a text spells bytes. -/
def spells : Bytes → List Char → Bool
  | [], [] => true
  | b :: bs, start :: high :: low :: text =>
    start == '%' && hexValue? high == some (b.toNat / 16) && hexValue? low == some (b.toNat % 16) &&
      spells bs text
  | _, _ => false

theorem spells_iff {bs : Bytes} {text : List Char} : spells bs text = true ↔ Spells bs text := by
  constructor
  · intro h
    induction bs, text using spells.induct with
    | case1 => exact .nil
    | case2 b bs start high low text ih =>
      simp only [spells, Bool.and_eq_true, beq_iff_eq] at h
      obtain ⟨⟨⟨rfl, hhigh⟩, hlow⟩, hrest⟩ := h
      exact .cons hhigh hlow (ih hrest)
    | case3 bs text hnil hcons =>
      rw [spells.eq_3 _ _ hnil hcons] at h
      cases h
  · intro h
    induction h with
    | nil => rfl
    | cons high_eq low_eq rest ih => simp [spells, high_eq, low_eq, ih]

instance (bs : Bytes) (text : List Char) : Decidable (Spells bs text) :=
  decidable_of_iff _ spells_iff

/-- The characters of escapes. -/
def IsPart (c : Char) : Prop :=
  c = '%' ∨ (hexValue? c).isSome

instance (c : Char) : Decidable (IsPart c) :=
  inferInstanceAs (Decidable (_ ∨ _))

theorem IsPart.range {c : Char} (h : IsPart c) :
    c.toNat = 37 ∨ 48 ≤ c.toNat ∧ c.toNat ≤ 57 ∨ 65 ≤ c.toNat ∧ c.toNat ≤ 70 ∨
      97 ≤ c.toNat ∧ c.toNat ≤ 102 := by
  cases h with
  | inl h => exact .inl (congrArg Char.toNat h)
  | inr h =>
    obtain ⟨n, hn⟩ := Option.isSome_iff_exists.mp h
    exact .inr (range_of_hexValue?_eq_some hn)

theorem IsPart.ascii {c : Char} (h : IsPart c) : c.toNat < 0x80 := by
  have := h.range
  omega

theorem IsPart.not_blank {c : Char} (h : IsPart c) : isBlank c = false := by
  have := h.range
  simp [isBlank]
  omega

namespace Spells

variable {bs : Bytes} {text : List Char}

theorem isPart (h : Spells bs text) : ∀ c ∈ text, IsPart c := by
  induction h with
  | nil => simp
  | cons high_eq low_eq rest ih =>
    simp only [List.forall_mem_cons]
    exact ⟨.inl rfl, .inr (high_eq ▸ rfl), .inr (low_eq ▸ rfl), ih⟩

/-- What is no part of an escape is not in the text. -/
theorem not_mem (h : Spells bs text) {c : Char} (hc : ¬IsPart c) : c ∉ text :=
  fun hmem => hc (h.isPart c hmem)

/-- Nor is its byte among the bytes of the text. -/
theorem not_mem_utf8Encode (h : Spells bs text) {c : Char} (hc : ¬IsPart c)
    (hascii : c.toNat < 0x80) : UInt8.ofNat c.toNat ∉ utf8Encode text :=
  fun hmem => h.not_mem hc (mem_of_mem_utf8Encode hascii hmem)

end Spells

/-! ### Reading back -/

/-- A digit is a byte that has its value. -/
theorem hexByteValue?_ofNat {c : Char} {n : Nat} (h : hexValue? c = some n) :
    hexByteValue? (UInt8.ofNat c.toNat) = some n := by
  have hascii : c.toNat < 0x80 := IsPart.ascii (.inr (h ▸ rfl))
  rw [hexByteValue?, toNat_ofNat_byte (by omega), Char.ofNat_toNat, h]

theorem byteOfDigits?_eq_some {high low : UInt8} {h l : Nat} (hhigh : hexByteValue? high = some h)
    (hlow : hexByteValue? low = some l) :
    byteOfDigits? high low = some (UInt8.ofNat (16 * h + l)) := by
  rw [byteOfDigits?, hhigh, hlow]
  rfl

/-- Two digits are read as the byte that they spell. -/
theorem byteOfDigits?_of_halves {b : UInt8} {high low : Char}
    (hhigh : hexValue? high = some (b.toNat / 16)) (hlow : hexValue? low = some (b.toNat % 16)) :
    byteOfDigits? (UInt8.ofNat high.toNat) (UInt8.ofNat low.toNat) = some b := by
  have hvalue : 16 * (b.toNat / 16) + b.toNat % 16 = b.toNat := Nat.div_add_mod _ _
  rw [byteOfDigits?_eq_some (hexByteValue?_ofNat hhigh) (hexByteValue?_ofNat hlow), hvalue,
    UInt8.ofNat_toNat]

/-- One escape in bytes. -/
theorem utf8Encode_escape {high low : Char} {m n : Nat} (hhigh : hexValue? high = some m)
    (hlow : hexValue? low = some n) (text : List Char) :
    utf8Encode ('%' :: high :: low :: text) =
      sign :: UInt8.ofNat high.toNat :: UInt8.ofNat low.toNat :: utf8Encode text := by
  have hhigh' : IsPart high := .inr (hhigh ▸ rfl)
  have hlow' : IsPart low := .inr (hlow ▸ rfl)
  rw [utf8Encode_cons_ascii (by decide), utf8Encode_cons_ascii hhigh'.ascii,
    utf8Encode_cons_ascii hlow'.ascii]
  rfl

theorem decode_escape {high low b : UInt8} (h : byteOfDigits? high low = some b) (rest : Bytes) :
    decode (sign :: high :: low :: rest) = b :: decode rest := by
  rw [decode, if_pos rfl, h]

/-- A text that spells bytes is decoded to them, whatever follows. -/
theorem Spells.decode_append {bs : Bytes} {text : List Char} (h : Spells bs text) (rest : Bytes) :
    decode (utf8Encode text ++ rest) = bs ++ decode rest := by
  induction h with
  | nil => rfl
  | cons high_eq low_eq _ ih =>
    rw [utf8Encode_escape high_eq low_eq, List.cons_append, List.cons_append, List.cons_append,
      decode_escape (byteOfDigits?_of_halves high_eq low_eq), ih]
    rfl

theorem Spells.decode_eq {bs : Bytes} {text : List Char} (h : Spells bs text) :
    decode (utf8Encode text) = bs := by
  have hdecode := h.decode_append []
  rwa [List.append_nil, decode, List.append_nil] at hdecode

/-- What `encode` writes spells the bytes. -/
theorem spells_encode (bs : Bytes) : ∃ text, Spells bs text ∧ utf8Encode text = encode bs := by
  induction bs with
  | nil => exact ⟨[], .nil, rfl⟩
  | cons b bs ih =>
    obtain ⟨text, hspells, htext⟩ := ih
    have hbyte := b.toNat_lt
    have hhigh := hexValue?_hexDigit (show b.toNat / 16 < 16 by omega)
    have hlow := hexValue?_hexDigit (show b.toNat % 16 < 16 by omega)
    refine ⟨_, .cons hhigh hlow hspells, ?_⟩
    rw [utf8Encode_escape hhigh hlow, htext]
    rfl

/-! ### Broken escapes -/

/-- Every `%` starts an escape. -/
def IsWhole (bs : Bytes) : Prop :=
  ∀ position, brokenFrom? position bs = none

theorem isWhole_nil : IsWhole [] :=
  fun _ => rfl

theorem IsWhole.cons {b : UInt8} {bs : Bytes} (hb : b ≠ sign) (h : IsWhole bs) :
    IsWhole (b :: bs) := by
  intro position
  unfold brokenFrom?
  rw [if_neg hb]
  exact h _

/-- An escape before what is whole. -/
theorem IsWhole.escape {bs : Bytes} {high low b : UInt8} (hbyte : byteOfDigits? high low = some b)
    (h : IsWhole bs) : IsWhole (sign :: high :: low :: bs) := by
  have hdigits : high ≠ sign ∧ low ≠ sign := by
    constructor
    · rintro rfl
      simp [byteOfDigits?, show hexByteValue? sign = none from rfl] at hbyte
    · rintro rfl
      simp [byteOfDigits?, show hexByteValue? sign = none from rfl] at hbyte
  intro position
  rw [brokenFrom?, if_pos rfl]
  simp only [hbyte, Option.isSome_some, if_true]
  exact (h.cons hdigits.2).cons hdigits.1 _

/-- A text that spells bytes leaves whole what follows. -/
theorem Spells.isWhole_append {bs : Bytes} {text : List Char} (h : Spells bs text) {rest : Bytes}
    (hrest : IsWhole rest) : IsWhole (utf8Encode text ++ rest) := by
  induction h with
  | nil => exact hrest
  | cons high_eq low_eq spells ih =>
    rw [utf8Encode_escape high_eq low_eq]
    exact ih.escape (byteOfDigits?_of_halves high_eq low_eq)

/-! ### The first broken escape -/

/-- Two hexadecimal digits come first. -/
def StartsWithDigits (bs : Bytes) : Prop :=
  ∃ high low rest, bs = high :: low :: rest ∧
    (hexByteValue? high).isSome ∧ (hexByteValue? low).isSome

/-- Every `%` starts an escape. -/
def AllEscapes (bs : Bytes) : Prop :=
  ∀ before after, bs = before ++ sign :: after → StartsWithDigits after

/-- At the position is the first `%` that starts no escape. -/
def FirstBroken (bs : Bytes) (position : Nat) : Prop :=
  ∃ before after, bs = before ++ sign :: after ∧ before.length = position ∧ ¬StartsWithDigits after ∧
    ∀ earlier rest, bs = earlier ++ sign :: rest → earlier.length < position → StartsWithDigits rest

variable {bs rest : Bytes} {b : UInt8} {position : Nat}

theorem isSome_byteOfDigits?_iff {high low : UInt8} :
    (byteOfDigits? high low).isSome ↔ (hexByteValue? high).isSome ∧ (hexByteValue? low).isSome := by
  unfold byteOfDigits?
  cases hexByteValue? high <;> cases hexByteValue? low <;> simp

/-- The search ends at a `%` that starts no escape. -/
theorem brokenFrom?_broken (h : ¬StartsWithDigits rest) :
    brokenFrom? position (sign :: rest) = some position := by
  unfold brokenFrom?
  rw [if_pos rfl]
  split
  next high low tail =>
    have hdigits : ¬(byteOfDigits? high low).isSome := fun hdigits =>
      h ⟨high, low, tail, rfl, isSome_byteOfDigits?_iff.mp hdigits⟩
    rw [if_neg hdigits]
  next => rfl

/-- It goes on behind every other byte.  Digits are no `%`, so nothing is missed
    if it does not jump over them. -/
theorem brokenFrom?_cons (h : b = sign → StartsWithDigits rest) :
    brokenFrom? position (b :: rest) = brokenFrom? (position + 1) rest := by
  by_cases hb : b = sign
  · obtain ⟨high, low, tail, rfl, hdigits⟩ := h hb
    rw [brokenFrom?.eq_2, if_pos hb]
    simp only [isSome_byteOfDigits?_iff.mpr hdigits, if_true]
  · conv_lhs => unfold brokenFrom?
    rw [if_neg hb]

theorem AllEscapes.cons (h : b = sign → StartsWithDigits rest) (hrest : AllEscapes rest) :
    AllEscapes (b :: rest) := by
  intro before after hsplit
  cases before with
  | nil =>
    obtain ⟨rfl, rfl⟩ := List.cons.inj hsplit
    exact h rfl
  | cons c before => exact hrest before after (List.cons.inj hsplit).2

theorem FirstBroken.cons (h : b = sign → StartsWithDigits rest) (hrest : FirstBroken rest position) :
    FirstBroken (b :: rest) (position + 1) := by
  obtain ⟨before, after, rfl, rfl, hbroken, hearlier⟩ := hrest
  refine ⟨b :: before, after, rfl, rfl, hbroken, ?_⟩
  intro earlier rest hsplit hlength
  cases earlier with
  | nil =>
    obtain ⟨rfl, rfl⟩ := List.cons.inj hsplit
    exact h rfl
  | cons c earlier =>
    exact hearlier earlier rest (List.cons.inj hsplit).2 (Nat.lt_of_succ_lt_succ hlength)

/-- Either every `%` starts an escape, or the first one that does not is found. -/
theorem brokenFrom?_cases (position : Nat) (bs : Bytes) :
    brokenFrom? position bs = none ∧ AllEscapes bs ∨
      ∃ i, brokenFrom? position bs = some (position + i) ∧ FirstBroken bs i := by
  induction bs generalizing position with
  | nil => exact .inl ⟨rfl, fun before _ hsplit => by cases before <;> cases hsplit⟩
  | cons b rest ih =>
    by_cases h : b = sign → StartsWithDigits rest
    · rw [brokenFrom?_cons h]
      rcases ih (position + 1) with ⟨hnone, hall⟩ | ⟨i, hsome, hfirst⟩
      · exact .inl ⟨hnone, hall.cons h⟩
      · refine .inr ⟨i + 1, ?_, hfirst.cons h⟩
        rw [hsome, Nat.add_assoc, Nat.add_comm 1 i]
    · obtain ⟨rfl, hbroken⟩ : b = sign ∧ ¬StartsWithDigits rest := by simpa using h
      refine .inr ⟨0, brokenFrom?_broken hbroken, [], rest, rfl, rfl, hbroken, ?_⟩
      exact fun _ _ _ hlength => absurd hlength (Nat.not_lt_zero _)

theorem FirstBroken.not_allEscapes (h : FirstBroken bs position) : ¬AllEscapes bs := by
  obtain ⟨before, after, hsplit, -, hbroken, -⟩ := h
  exact fun hall => hbroken (hall before after hsplit)

theorem FirstBroken.le {other : Nat} (h : FirstBroken bs position) (hother : FirstBroken bs other) :
    position ≤ other := by
  obtain ⟨-, -, -, -, -, hearlier⟩ := h
  obtain ⟨before, after, hsplit, rfl, hbroken, -⟩ := hother
  exact Nat.le_of_not_lt fun hlt => hbroken (hearlier before after hsplit hlt)

theorem broken?_eq_some_iff : broken? bs = some position ↔ FirstBroken bs position := by
  rw [broken?]
  rcases brokenFrom?_cases 0 bs with ⟨hnone, hall⟩ | ⟨i, hsome, hfirst⟩
  · rw [hnone]
    exact iff_of_false nofun fun hfirst => hfirst.not_allEscapes hall
  · rw [hsome, Nat.zero_add]
    constructor
    · intro h
      obtain rfl := Option.some.inj h
      exact hfirst
    · intro h
      exact congrArg some (Nat.le_antisymm (hfirst.le h) (h.le hfirst))

theorem broken?_eq_none_iff : broken? bs = none ↔ AllEscapes bs := by
  rcases brokenFrom?_cases 0 bs with ⟨hnone, hall⟩ | ⟨i, hsome, hfirst⟩
  · exact iff_of_true hnone hall
  · refine iff_of_false ?_ hfirst.not_allEscapes
    rw [broken?, hsome]
    exact nofun

end Percent

end FlashSale.Text
