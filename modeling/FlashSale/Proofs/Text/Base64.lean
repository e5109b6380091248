import FlashSale.Proofs.Text.Utf8
import FlashSale.Text.Base64

/-! # Reading back base64

    Every group of letters has the bits of the bytes that it was made of, and
    among the letters there is no pad, so it is known which group was filled
    up.  The bits that a group does not use have to be zero, so no two texts are
    read as the same bytes. -/

namespace FlashSale.Text.Base64

/-! ### Letters -/

theorem value?_letter {n : Nat} (h : n < 64) : value? (letter n) = some n := by
  revert n
  decide

/-- The pad is no letter. -/
theorem letter_ne_pad {n : Nat} (h : n < 64) : letter n ≠ '=' := by
  intro heq
  have hpad : value? '=' = none := by decide
  rw [← heq, value?_letter h] at hpad
  cases hpad

/-- A letter is that of its value. -/
theorem letter_of_value? {c : Char} {n : Nat} (h : value? c = some n) : letter n = c ∧ n < 64 := by
  have hchar (k : Nat) (hk : k = c.toNat) : Char.ofNat k = c := by
    rw [hk, Char.ofNat_toNat]
  unfold value? at h
  split at h
  · next hrange =>
    have hrange : 65 ≤ c.toNat ∧ c.toNat ≤ 90 := hrange
    obtain rfl := Option.some.inj h
    refine ⟨?_, by omega⟩
    rw [letter, if_pos (by omega), hchar _ (by omega)]
  split at h
  · next hrange =>
    have hrange : 97 ≤ c.toNat ∧ c.toNat ≤ 122 := hrange
    obtain rfl := Option.some.inj h
    refine ⟨?_, by omega⟩
    rw [letter, if_neg (by omega), if_pos (by omega), hchar _ (by omega)]
  split at h
  · next hrange =>
    have hrange : 48 ≤ c.toNat ∧ c.toNat ≤ 57 := hrange
    obtain rfl := Option.some.inj h
    refine ⟨?_, by omega⟩
    rw [letter, if_neg (by omega), if_neg (by omega), if_pos (by omega), hchar _ (by omega)]
  split at h
  · next hplus =>
    obtain rfl := Option.some.inj h
    exact ⟨hplus.symm, by decide⟩
  split at h
  · next hslash =>
    obtain rfl := Option.some.inj h
    exact ⟨hslash.symm, by decide⟩
  · cases h

/-! ### Groups -/

section

variable (a b c : UInt8)

theorem ofNat_eq {n : Nat} (h : n = a.toNat) : UInt8.ofNat n = a := by
  rw [h, UInt8.ofNat_toNat]

theorem decodeOne?_letters :
    decodeOne? (letter (a.toNat / 4)) (letter (a.toNat % 4 * 16)) = some [a] := by
  have ha := a.toNat_lt
  have hfirst := value?_letter (show a.toNat / 4 < 64 by omega)
  have hsecond := value?_letter (show a.toNat % 4 * 16 < 64 by omega)
  have hbyte : UInt8.ofNat (a.toNat / 4 * 4 + a.toNat % 4 * 16 / 16) = a := ofNat_eq a (by omega)
  have hunused : a.toNat % 4 * 16 % 16 = 0 := by omega
  simp only [decodeOne?, hfirst, hsecond, Option.bind_eq_bind, Option.bind_some, hunused, if_true,
    hbyte]

theorem decodeTwo?_letters :
    decodeTwo? (letter (a.toNat / 4)) (letter (a.toNat % 4 * 16 + b.toNat / 16))
      (letter (b.toNat % 16 * 4)) = some [a, b] := by
  have ha := a.toNat_lt
  have hb := b.toNat_lt
  have hfirst := value?_letter (show a.toNat / 4 < 64 by omega)
  have hsecond := value?_letter (show a.toNat % 4 * 16 + b.toNat / 16 < 64 by omega)
  have hthird := value?_letter (show b.toNat % 16 * 4 < 64 by omega)
  have hbyte₁ : UInt8.ofNat (a.toNat / 4 * 4 + (a.toNat % 4 * 16 + b.toNat / 16) / 16) = a :=
    ofNat_eq a (by omega)
  have hbyte₂ : UInt8.ofNat ((a.toNat % 4 * 16 + b.toNat / 16) % 16 * 16 +
      b.toNat % 16 * 4 / 4) = b :=
    ofNat_eq b (by omega)
  have hunused : b.toNat % 16 * 4 % 4 = 0 := by omega
  simp only [decodeTwo?, hfirst, hsecond, hthird, Option.bind_eq_bind, Option.bind_some, hunused,
    if_true, hbyte₁, hbyte₂]

theorem decodeThree?_letters :
    decodeThree? (letter (a.toNat / 4)) (letter (a.toNat % 4 * 16 + b.toNat / 16))
      (letter (b.toNat % 16 * 4 + c.toNat / 64)) (letter (c.toNat % 64)) = some [a, b, c] := by
  have ha := a.toNat_lt
  have hb := b.toNat_lt
  have hc := c.toNat_lt
  have hfirst := value?_letter (show a.toNat / 4 < 64 by omega)
  have hsecond := value?_letter (show a.toNat % 4 * 16 + b.toNat / 16 < 64 by omega)
  have hthird := value?_letter (show b.toNat % 16 * 4 + c.toNat / 64 < 64 by omega)
  have hfourth := value?_letter (show c.toNat % 64 < 64 by omega)
  have hbyte₁ : UInt8.ofNat (a.toNat / 4 * 4 + (a.toNat % 4 * 16 + b.toNat / 16) / 16) = a :=
    ofNat_eq a (by omega)
  have hbyte₂ : UInt8.ofNat ((a.toNat % 4 * 16 + b.toNat / 16) % 16 * 16 +
      (b.toNat % 16 * 4 + c.toNat / 64) / 4) = b :=
    ofNat_eq b (by omega)
  have hbyte₃ : UInt8.ofNat ((b.toNat % 16 * 4 + c.toNat / 64) % 4 * 64 + c.toNat % 64) = c :=
    ofNat_eq c (by omega)
  simp only [decodeThree?, hfirst, hsecond, hthird, hfourth, Option.bind_eq_bind,
    Option.bind_some, Option.pure_def, hbyte₁, hbyte₂, hbyte₃]

end

/-! ### Groups that are read -/

variable {p q r s : Char} {group : Bytes}

theorem encode_of_decodeOne? (h : decodeOne? p q = some group) :
    encode group = [p, q, '=', '='] := by
  simp only [decodeOne?, Option.bind_eq_bind, Option.bind_eq_some_iff,
    Option.ite_none_right_eq_some, Option.some.injEq] at h
  obtain ⟨x, hx, y, hy, hunused, rfl⟩ := h
  obtain ⟨hp, hxlt⟩ := letter_of_value? hx
  obtain ⟨hq, hylt⟩ := letter_of_value? hy
  have hbyte := toNat_ofNat_byte (show x * 4 + y / 16 < 256 by omega)
  have hfirst : (x * 4 + y / 16) / 4 = x := by omega
  have hsecond : (x * 4 + y / 16) % 4 * 16 = y := by omega
  rw [encode, hbyte, hfirst, hsecond, hp, hq]

theorem encode_of_decodeTwo? (h : decodeTwo? p q r = some group) :
    encode group = [p, q, r, '='] := by
  simp only [decodeTwo?, Option.bind_eq_bind, Option.bind_eq_some_iff,
    Option.ite_none_right_eq_some, Option.some.injEq] at h
  obtain ⟨x, hx, y, hy, z, hz, hunused, rfl⟩ := h
  obtain ⟨hp, hxlt⟩ := letter_of_value? hx
  obtain ⟨hq, hylt⟩ := letter_of_value? hy
  obtain ⟨hr, hzlt⟩ := letter_of_value? hz
  have hbyte₁ := toNat_ofNat_byte (show x * 4 + y / 16 < 256 by omega)
  have hbyte₂ := toNat_ofNat_byte (show y % 16 * 16 + z / 4 < 256 by omega)
  have hfirst : (x * 4 + y / 16) / 4 = x := by omega
  have hsecond : (x * 4 + y / 16) % 4 * 16 + (y % 16 * 16 + z / 4) / 16 = y := by omega
  have hthird : (y % 16 * 16 + z / 4) % 16 * 4 = z := by omega
  rw [encode, hbyte₁, hbyte₂, hfirst, hsecond, hthird, hp, hq, hr]

theorem encode_append_of_decodeThree? (h : decodeThree? p q r s = some group) (rest : Bytes) :
    encode (group ++ rest) = p :: q :: r :: s :: encode rest := by
  simp only [decodeThree?, Option.bind_eq_bind, Option.bind_eq_some_iff, Option.pure_def,
    Option.some.injEq] at h
  obtain ⟨x, hx, y, hy, z, hz, w, hw, rfl⟩ := h
  obtain ⟨hp, hxlt⟩ := letter_of_value? hx
  obtain ⟨hq, hylt⟩ := letter_of_value? hy
  obtain ⟨hr, hzlt⟩ := letter_of_value? hz
  obtain ⟨hs, hwlt⟩ := letter_of_value? hw
  have hbyte₁ := toNat_ofNat_byte (show x * 4 + y / 16 < 256 by omega)
  have hbyte₂ := toNat_ofNat_byte (show y % 16 * 16 + z / 4 < 256 by omega)
  have hbyte₃ := toNat_ofNat_byte (show z % 4 * 64 + w < 256 by omega)
  have hfirst : (x * 4 + y / 16) / 4 = x := by omega
  have hsecond : (x * 4 + y / 16) % 4 * 16 + (y % 16 * 16 + z / 4) / 16 = y := by omega
  have hthird : (y % 16 * 16 + z / 4) % 16 * 4 + (z % 4 * 64 + w) / 64 = z := by omega
  have hfourth : (z % 4 * 64 + w) % 64 = w := by omega
  simp only [List.cons_append, List.nil_append, encode]
  rw [hbyte₁, hbyte₂, hbyte₃, hfirst, hsecond, hthird, hfourth, hp, hq, hr, hs]

/-! ### Texts -/

/-- Reading undoes writing, whatever the last group has been filled up with. -/
theorem decode?_encode (bs : Bytes) : decode? (encode bs) = some bs := by
  -- Three bytes are a full group; what is left at the end is a padded one.
  induction bs using encode.induct with
  | case1 => rfl
  | case2 a => exact decodeOne?_letters a
  | case3 a b =>
    have hthird := letter_ne_pad (show b.toNat % 16 * 4 < 64 by omega)
    rw [encode, decode?.eq_3 _ _ _ fun h => hthird h, decodeTwo?_letters]
  | case4 a b c rest ih =>
    have hfourth := letter_ne_pad (show c.toNat % 64 < 64 by omega)
    rw [encode, decode?.eq_4 _ _ _ _ _ (fun _ h _ => hfourth h) fun h _ => hfourth h,
      decodeThree?_letters, ih]
    rfl

/-- Nothing else is read. -/
theorem encode_of_decode? {text : List Char} {bs : Bytes} (h : decode? text = some bs) :
    encode bs = text := by
  induction text using decode?.induct generalizing bs with
  | case1 =>
    obtain rfl := Option.some.inj h
    rfl
  | case2 p q => exact encode_of_decodeOne? h
  | case3 p q r hpad =>
    rw [decode?.eq_3 _ _ _ hpad] at h
    exact encode_of_decodeTwo? h
  | case4 p q r s rest hone htwo ih =>
    rw [decode?.eq_4 _ _ _ _ _ hone htwo] at h
    simp only [Option.bind_eq_bind, Option.bind_eq_some_iff, Option.pure_def,
      Option.some.injEq] at h
    obtain ⟨group, hgroup, others, hothers, rfl⟩ := h
    rw [encode_append_of_decodeThree? hgroup, ih hothers]
  | case5 text hnil hone htwo hthree =>
    rw [decode?.eq_5 _ hnil hone htwo hthree] at h
    cases h

theorem decode?_eq_some_iff {text : List Char} {bs : Bytes} :
    decode? text = some bs ↔ text = encode bs :=
  ⟨fun h => (encode_of_decode? h).symm, fun h => h ▸ decode?_encode bs⟩

theorem decode?_eq_none_iff {text : List Char} :
    decode? text = none ↔ ∀ bs, text ≠ encode bs := by
  rw [Option.eq_none_iff_forall_ne_some]
  exact forall_congr' fun bs => not_congr decode?_eq_some_iff

end FlashSale.Text.Base64
