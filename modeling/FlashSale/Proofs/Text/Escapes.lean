import FlashSale.Proofs.Text.Percent

/-! # What escapes stand for

    A `%` with two digits behind it is one byte.  Every other byte is read as it
    is, a `%` without digits too; in some texts a `+` is read as a space.  What
    comes out of an escape is not read once more.

    A text may have all its characters in escapes, or only some of them. -/

namespace FlashSale.Text.Percent

variable {text rest bs : Bytes}

/-! ### Reading -/

/-- The text is read as the bytes; `literal` tells how a byte is read that is no
    part of an escape. -/
inductive Decodes (literal : UInt8 → UInt8) : Bytes → Bytes → Prop where
  | nil : Decodes literal [] []
  | escape {high low : UInt8} {h l : Nat} {text bs : Bytes} (high_eq : hexByteValue? high = some h)
    (low_eq : hexByteValue? low = some l) (rest : Decodes literal text bs) :
    Decodes literal (sign :: high :: low :: text) (UInt8.ofNat (16 * h + l) :: bs)
  | other {b : UInt8} {text bs : Bytes} (not_escape : b = sign → ¬StartsWithDigits text)
    (rest : Decodes literal text bs) : Decodes literal (b :: text) (literal b :: bs)

/-- A `+` read as a space. -/
def plusAsSpace (b : UInt8) : UInt8 :=
  if b = 0x2B then 0x20 else b

theorem decode_other {b : UInt8} (h : b = sign → ¬StartsWithDigits rest) :
    decode (b :: rest) = b :: decode rest := by
  match rest, h with
  | [], _ => rfl
  | [_], _ => rfl
  | high :: low :: tail, h =>
    rw [decode]
    by_cases hb : b = sign
    · -- No byte is read from what are not two digits.
      have hnone : byteOfDigits? high low = none := by
        rw [← Option.not_isSome_iff_eq_none, isSome_byteOfDigits?_iff]
        exact fun hdigits => h hb ⟨high, low, tail, rfl, hdigits⟩
      rw [if_pos hb, hnone]
    · rw [if_neg hb]

/-- Bytes other than `%` are read as they are, whatever follows. -/
theorem decode_append_of_ne {front : Bytes} (h : ∀ b ∈ front, b ≠ sign) (rest : Bytes) :
    decode (front ++ rest) = front ++ decode rest := by
  induction front with
  | nil => rfl
  | cons b front ih =>
    obtain ⟨hb, hfront⟩ := List.forall_mem_cons.mp h
    rw [List.cons_append, decode_other fun heq => absurd heq hb, ih hfront]
    rfl

/-- Each byte is read in one way. -/
theorem exists_decodes (literal : UInt8 → UInt8) (text : Bytes) :
    ∃ bs, Decodes literal text bs := by
  induction hlength : text.length using Nat.strongRecOn generalizing text with
  | ind n ih =>
    cases text with
    | nil => exact ⟨[], .nil⟩
    | cons b text =>
      by_cases hescape : b = sign ∧ StartsWithDigits text
      · obtain ⟨rfl, high, low, tail, rfl, hhigh, hlow⟩ := hescape
        obtain ⟨h, hh⟩ := Option.isSome_iff_exists.mp hhigh
        obtain ⟨l, hl⟩ := Option.isSome_iff_exists.mp hlow
        obtain ⟨bs, hbs⟩ := ih tail.length (by simp at hlength; omega) tail rfl
        exact ⟨_, .escape hh hl hbs⟩
      · obtain ⟨bs, hbs⟩ := ih text.length (by simp at hlength; omega) text rfl
        exact ⟨_, .other (not_and.mp hescape) hbs⟩

/-- Bytes may be read in this way before the escapes are. -/
structure KeepsEscapes (literal : UInt8 → UInt8) : Prop where
  sign_iff : ∀ b, literal b = sign ↔ b = sign
  value_eq : ∀ b, hexByteValue? (literal b) = hexByteValue? b

theorem keepsEscapes_id : KeepsEscapes id where
  sign_iff _ := Iff.rfl
  value_eq _ := rfl

theorem keepsEscapes_plusAsSpace : KeepsEscapes plusAsSpace where
  sign_iff b := by
    by_cases hb : b = 0x2B
    · subst hb
      decide
    · rw [plusAsSpace, if_neg hb]
  value_eq b := by
    by_cases hb : b = 0x2B
    · subst hb
      decide
    · rw [plusAsSpace, if_neg hb]

theorem KeepsEscapes.startsWithDigits_map_iff {literal : UInt8 → UInt8} (h : KeepsEscapes literal) :
    StartsWithDigits (text.map literal) ↔ StartsWithDigits text := by
  match text with
  | [] => simp [StartsWithDigits]
  | [b] => simp [StartsWithDigits]
  | high :: low :: tail => simp [StartsWithDigits, h.value_eq]

theorem KeepsEscapes.decode_map_of_decodes {literal : UInt8 → UInt8} (h : KeepsEscapes literal)
    (hdecodes : Decodes literal text bs) : decode (text.map literal) = bs := by
  induction hdecodes with
  | nil => rfl
  | escape high_eq low_eq rest ih =>
    rw [← h.value_eq] at high_eq low_eq
    rw [List.map_cons, List.map_cons, List.map_cons, (h.sign_iff sign).mpr rfl,
      decode_escape (byteOfDigits?_eq_some high_eq low_eq), ih]
  | @other b text bs not_escape rest ih =>
    rw [List.map_cons, decode_other, ih]
    rw [h.sign_iff, h.startsWithDigits_map_iff]
    exact not_escape

/-- It comes to the same whether other bytes are read at once or beforehand. -/
theorem KeepsEscapes.decode_map_eq_iff {literal : UInt8 → UInt8} (h : KeepsEscapes literal) :
    decode (text.map literal) = bs ↔ Decodes literal text bs := by
  constructor
  · rintro rfl
    obtain ⟨bs, hbs⟩ := exists_decodes literal text
    rwa [h.decode_map_of_decodes hbs]
  · exact h.decode_map_of_decodes

theorem decode_eq_iff : decode text = bs ↔ Decodes id text bs := by
  rw [← keepsEscapes_id.decode_map_eq_iff, List.map_id]

/-! ### What follows -/

theorem StartsWithDigits.of_append (h : StartsWithDigits (text ++ rest))
    (hrest : ∀ b ∈ rest.head?, hexByteValue? b = none) : StartsWithDigits text := by
  obtain ⟨high, low, tail, heq, hhigh, hlow⟩ := h
  have hdigit {b : UInt8} {more : Bytes} (hmore : rest = b :: more) : (hexByteValue? b).isSome = false := by
    rw [hrest b (by rw [hmore]; rfl)]
    rfl
  match text with
  | [] =>
    rw [hdigit heq] at hhigh
    cases hhigh
  | [b] =>
    rw [hdigit (List.cons.inj heq).2] at hlow
    cases hlow
  | b :: b' :: more =>
    simp only [List.cons_append, List.cons.injEq] at heq
    obtain ⟨rfl, rfl, -⟩ := heq
    exact ⟨b, b', more, rfl, hhigh, hlow⟩

theorem Decodes.append {literal : UInt8 → UInt8} {ds : Bytes} (h : Decodes literal text bs)
    (h' : Decodes literal rest ds) (hrest : ∀ b ∈ rest.head?, hexByteValue? b = none) :
    Decodes literal (text ++ rest) (bs ++ ds) := by
  induction h with
  | nil => exact h'
  | escape high_eq low_eq _ ih => exact .escape high_eq low_eq ih
  | other not_escape _ ih =>
    refine .other ?_ ih
    intro hsign hdigits
    exact not_escape hsign (hdigits.of_append hrest)

/-- No escape reaches into what does not start with a digit. -/
theorem decode_append (hrest : ∀ b ∈ rest.head?, hexByteValue? b = none) :
    decode (text ++ rest) = decode text ++ decode rest :=
  decode_eq_iff.mpr ((decode_eq_iff.mp rfl).append (decode_eq_iff.mp rfl) hrest)

/-! ### Characters in escapes -/

/-- The text has each character in escapes, or as it is if it may be kept. -/
inductive Encodes (kept : Char → Prop) : List Char → List Char → Prop where
  | nil : Encodes kept [] []
  | literal {c : Char} {cs text : List Char} (kept_char : kept c) (rest : Encodes kept cs text) :
    Encodes kept (c :: cs) (c :: text)
  | escaped {c : Char} {cs escapes text : List Char}
    (spells : Spells (String.utf8EncodeChar c) escapes) (rest : Encodes kept cs text) :
    Encodes kept (c :: cs) (escapes ++ text)

/-- A character other than `%` has no byte of it. -/
theorem ne_sign_of_mem_utf8EncodeChar {c : Char} (hc : c ≠ '%') :
    ∀ b ∈ String.utf8EncodeChar c, b ≠ sign := by
  rintro b hb rfl
  have hmem : UInt8.ofNat '%'.toNat ∈ utf8Encode [c] := by
    rw [utf8Encode, List.flatMap_singleton]
    exact hb
  have hsign : '%' ∈ [c] := mem_of_mem_utf8Encode (by decide) hmem
  exact hc (List.mem_singleton.mp hsign).symm

theorem Spells.exists_append {cs : List Char} {more : Bytes} (h : Spells (bs ++ more) cs) :
    ∃ front back, cs = front ++ back ∧ Spells bs front ∧ Spells more back := by
  induction bs generalizing cs with
  | nil => exact ⟨[], cs, rfl, .nil, h⟩
  | cons b bs ih =>
    cases h with
    | cons high_eq low_eq rest =>
      obtain ⟨front, back, rfl, hfront, hback⟩ := ih rest
      exact ⟨_, back, rfl, .cons high_eq low_eq hfront, hback⟩

namespace Encodes

variable {kept : Char → Prop} {cs spelled : List Char}

/-- No character needs to be kept. -/
theorem of_spells (h : Spells (utf8Encode cs) spelled) : Encodes kept cs spelled := by
  induction cs generalizing spelled with
  | nil =>
    cases h
    exact .nil
  | cons c cs ih =>
    rw [utf8Encode, List.flatMap_cons] at h
    obtain ⟨front, back, rfl, hfront, hback⟩ := h.exists_append
    exact .escaped hfront (ih hback)

theorem of_kept [DecidablePred kept] (h : cs.all (fun c => decide (kept c)) = true) :
    Encodes kept cs cs := by
  induction cs with
  | nil => exact .nil
  | cons c cs ih =>
    rw [List.all_cons, Bool.and_eq_true, decide_eq_true_eq] at h
    exact .literal h.1 (ih h.2)

theorem decode_eq (h : Encodes kept cs spelled) (hkept : ∀ c, kept c → c ≠ '%') :
    decode (utf8Encode spelled) = utf8Encode cs := by
  induction h with
  | nil => rfl
  | literal kept_char _ ih =>
    rw [utf8Encode, utf8Encode, List.flatMap_cons, List.flatMap_cons,
      decode_append_of_ne (ne_sign_of_mem_utf8EncodeChar (hkept _ kept_char))]
    exact congrArg _ ih
  | escaped spells _ ih =>
    rw [utf8Encode_append, spells.decode_append, ih]
    rfl

theorem isPart_or_kept (h : Encodes kept cs spelled) : ∀ c ∈ spelled, IsPart c ∨ kept c := by
  induction h with
  | nil => simp
  | literal kept_char _ ih => exact List.forall_mem_cons.mpr ⟨.inr kept_char, ih⟩
  | escaped spells _ ih =>
    intro c hc
    rcases List.mem_append.mp hc with hc | hc
    · exact .inl (spells.isPart c hc)
    · exact ih c hc

theorem not_blank (h : Encodes kept cs spelled) (hkept : ∀ c, kept c → isBlank c = false) :
    ∀ c ∈ spelled, isBlank c = false := by
  intro c hc
  cases h.isPart_or_kept c hc with
  | inl hpart => exact hpart.not_blank
  | inr hc => exact hkept c hc

end Encodes

end FlashSale.Text.Percent
