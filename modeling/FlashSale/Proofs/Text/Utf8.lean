import FlashSale.Text.Utf8
import Mathlib.Data.List.Basic

/-! # Reading back UTF-8

    What was written as UTF-8 is read back as it was, by the strict reading and
    by the forgiving one: the machine that cuts bytes into characters comes to
    no broken part.  The strict reading reads nothing else. -/

namespace FlashSale.Text

/-! ### Bytes of a character -/

theorem toNat_ofNat_byte {n : Nat} (h : n < 256) : (UInt8.ofNat n).toNat = n := by
  rw [UInt8.toNat_ofNat']
  exact Nat.mod_eq_of_lt h

/-- The number of a character is not that of a surrogate, nor above
    U+10FFFF. -/
theorem toNat_char_lt (c : Char) : c.toNat < 0xD800 ∨ 0xDFFF < c.toNat ∧ c.toNat < 0x110000 :=
  c.valid

/-- The only byte. -/
theorem lead_one {n : Nat} (h : n < 0x80) :
    Lead.ofByte (UInt8.ofNat n) = .single (Char.ofNat n) := by
  have hbyte := toNat_ofNat_byte (show n < 256 by omega)
  have hlow : UInt8.ofNat n < 0x80 := by
    rw [UInt8.lt_iff_toNat_lt, hbyte]
    exact h
  rw [Lead.ofByte, if_pos hlow, hbyte]

/-- The first of two bytes. -/
theorem lead_two {n : Nat} (hlow : 2 ≤ n) (hhigh : n < 32) :
    Lead.ofByte (UInt8.ofNat (n + 0xC0)) = .multi { owed := 1, bits := n } := by
  revert hlow
  revert n
  decide

/-- The first of three bytes. -/
theorem lead_three {n : Nat} (h : n < 16) :
    Lead.ofByte (UInt8.ofNat (n + 0xE0)) =
      .multi { owed := 2, bits := n, low := if n = 0 then 0xA0 else 0x80,
               high := if n = 13 then 0x9F else 0xBF } := by
  revert n
  decide

/-- The first of four bytes. -/
theorem lead_four {n : Nat} (h : n < 5) :
    Lead.ofByte (UInt8.ofNat (n + 0xF0)) =
      .multi { owed := 3, bits := n, low := if n = 0 then 0x90 else 0x80,
               high := if n = 4 then 0x8F else 0xBF } := by
  revert n
  decide

/-- A further byte, in the range that is left open for it. -/
theorem chunksFrom_tail {p : Partial} {n : Nat} (hn : n < 64) (hlow : p.low.toNat ≤ n + 0x80)
    (hhigh : n + 0x80 ≤ p.high.toNat) (bs : Bytes) :
    chunksFrom (some p) (UInt8.ofNat (n + 0x80) :: bs) =
      if p.owed ≤ 1 then .char (Char.ofNat (p.bits * 64 + n)) :: chunksFrom none bs
      else chunksFrom (some { owed := p.owed - 1, bits := p.bits * 64 + n }) bs := by
  have hbyte := toNat_ofNat_byte (show n + 0x80 < 256 by omega)
  have hrange : p.low ≤ UInt8.ofNat (n + 0x80) ∧ UInt8.ofNat (n + 0x80) ≤ p.high := by
    rw [UInt8.le_iff_toNat_le, UInt8.le_iff_toNat_le, hbyte]
    exact ⟨hlow, hhigh⟩
  rw [chunksFrom, if_pos hrange, hbyte, Nat.add_sub_cancel]

/-- The last byte of several. -/
theorem chunksFrom_last {bits n : Nat} (hn : n < 64) (bs : Bytes) :
    chunksFrom (some { owed := 1, bits }) (UInt8.ofNat (n + 0x80) :: bs) =
      .char (Char.ofNat (bits * 64 + n)) :: chunksFrom none bs := by
  rw [chunksFrom_tail hn (by simp) (by simp; omega)]
  rfl

/-- A further byte that is not the last. -/
theorem chunksFrom_more (owed : Nat) {bits n : Nat} (hn : n < 64) {low high : UInt8}
    (hlow : low.toNat ≤ n + 0x80) (hhigh : n + 0x80 ≤ high.toNat) (bs : Bytes) :
    chunksFrom (some { owed := owed + 2, bits, low, high }) (UInt8.ofNat (n + 0x80) :: bs) =
      chunksFrom (some { owed := owed + 1, bits := bits * 64 + n }) bs := by
  rw [chunksFrom_tail hn hlow hhigh, if_neg (by simp)]
  rfl

/-! ### Characters -/

/-- The bytes of a character are cut back into it. -/
theorem chunksFrom_utf8EncodeChar (c : Char) (bs : Bytes) :
    chunksFrom none (String.utf8EncodeChar c ++ bs) = .char c :: chunksFrom none bs := by
  have hvalid := toNat_char_lt c
  have hchar {n : Nat} (h : n = c.toNat) : Char.ofNat n = c := h ▸ c.ofNat_toNat
  simp only [String.utf8EncodeChar, show c.val.toNat = c.toNat from rfl]
  generalize c.toNat = v at hvalid hchar
  -- One case for each number of bytes; what the second byte may be follows from the bounds
  -- of the case, as no shorter form would do, and from `hvalid`.
  split
  case isTrue =>
    rw [List.singleton_append, chunksFrom, lead_one (by omega)]
    simp only [hchar]
  split
  case isTrue =>
    simp only [List.cons_append, List.nil_append]
    rw [chunksFrom, lead_two (by omega) (by omega)]
    dsimp only
    rw [chunksFrom_last (by omega), hchar (by omega)]
  split
  case isTrue =>
    simp only [List.cons_append, List.nil_append]
    rw [chunksFrom, lead_three (by omega)]
    dsimp only
    rw [chunksFrom_more 0 (by omega) (by split <;> simp; omega)
      (by split <;> simp <;> omega), chunksFrom_last (by omega), hchar (by omega)]
  case isFalse =>
    simp only [List.cons_append, List.nil_append]
    rw [chunksFrom, lead_four (by omega)]
    dsimp only
    rw [chunksFrom_more 1 (by omega) (by split <;> simp; omega)
      (by split <;> simp <;> omega), chunksFrom_more 0 (by omega) (by simp)
      (by simp; omega), chunksFrom_last (by omega), hchar (by omega)]

/-- Text is cut into its characters, and no part is broken. -/
theorem chunks_utf8Encode (cs : List Char) : chunks (utf8Encode cs) = cs.map .char := by
  unfold chunks utf8Encode
  induction cs with
  | nil => rfl
  | cons c cs ih => rw [List.flatMap_cons, chunksFrom_utf8EncodeChar, ih, List.map_cons]

theorem utf8Decode?_utf8Encode (cs : List Char) : utf8Decode? (utf8Encode cs) = some cs := by
  rw [utf8Decode?, chunks_utf8Encode, List.mapM_map]
  show cs.mapM (pure : Char → Option Char) = some cs
  rw [List.mapM_pure, List.map_id']
  rfl

theorem utf8DecodeLossy_utf8Encode (cs : List Char) : utf8DecodeLossy (utf8Encode cs) = cs := by
  rw [utf8DecodeLossy, chunks_utf8Encode, List.map_map]
  exact List.map_id cs

theorem stringOf?_bytesOf (s : String) : stringOf? (bytesOf s) = some s := by
  rw [stringOf?, bytesOf, utf8Decode?_utf8Encode, Option.map_some, String.ofList_toList]

theorem bytesOf_inj {s t : String} : bytesOf s = bytesOf t ↔ s = t := by
  constructor
  · intro h
    have hread := stringOf?_bytesOf s
    rw [h, stringOf?_bytesOf] at hread
    exact (Option.some.inj hread).symm
  · intro h
    rw [h]

theorem utf8Encode_append (cs ds : List Char) :
    utf8Encode (cs ++ ds) = utf8Encode cs ++ utf8Encode ds :=
  List.flatMap_append

/-- Text that is joined is joined in bytes. -/
theorem utf8Encode_intercalate (sep : List Char) (pieces : List (List Char)) :
    utf8Encode (sep.intercalate pieces) = (utf8Encode sep).intercalate (pieces.map utf8Encode) := by
  induction pieces with
  | nil => rfl
  | cons p ps ih =>
    cases ps with
    | nil => simp
    | cons q qs =>
      rw [List.map_cons, List.map_cons, List.intercalate_cons_cons, List.intercalate_cons_cons,
        utf8Encode_append, utf8Encode_append, ih, List.map_cons]

/-! ### ASCII -/

/-- An ASCII character is one byte. -/
theorem utf8Encode_cons_ascii {c : Char} (h : c.toNat < 0x80) (cs : List Char) :
    utf8Encode (c :: cs) = UInt8.ofNat c.toNat :: utf8Encode cs := by
  have hone : String.utf8EncodeChar c = [UInt8.ofNat c.toNat] := if_pos (Nat.le_of_lt_succ h)
  rw [utf8Encode, List.flatMap_cons, hone, List.singleton_append]
  rfl

/-- Bytes of ASCII are always text. -/
theorem exists_utf8Encode_eq {bs : Bytes} (h : ∀ b ∈ bs, b < 0x80) : ∃ cs, utf8Encode cs = bs := by
  induction bs with
  | nil => exact ⟨[], rfl⟩
  | cons b bs ih =>
    obtain ⟨hb, hbs⟩ := List.forall_mem_cons.mp h
    obtain ⟨cs, rfl⟩ := ih hbs
    have hsmall : b.toNat < 0x80 := UInt8.lt_iff_toNat_lt.mp hb
    have hchar : (Char.ofNat b.toNat).toNat = b.toNat := by
      have hascii : ∀ n < 0x80, (Char.ofNat n).toNat = n := by decide
      exact hascii _ hsmall
    refine ⟨Char.ofNat b.toNat :: cs, ?_⟩
    rw [utf8Encode_cons_ascii (by omega), hchar, UInt8.ofNat_toNat]

/-- Beyond ASCII no byte of a character is one of ASCII. -/
theorem le_toNat_of_mem_utf8EncodeChar {c : Char} (hc : 0x80 ≤ c.toNat) {b : UInt8}
    (hb : b ∈ String.utf8EncodeChar c) : 0x80 ≤ b.toNat := by
  have hvalid := toNat_char_lt c
  have hbyte {n : Nat} (h : b = UInt8.ofNat n) (hlow : 0x80 ≤ n) (hhigh : n < 256) :
      0x80 ≤ b.toNat := by
    rw [h, toNat_ofNat_byte hhigh]
    exact hlow
  simp only [String.utf8EncodeChar, show c.val.toNat = c.toNat from rfl] at hb
  split at hb
  · omega
  split at hb
  · simp only [List.mem_cons, List.not_mem_nil, or_false] at hb
    rcases hb with h | h <;> exact hbyte h (by omega) (by omega)
  split at hb
  · simp only [List.mem_cons, List.not_mem_nil, or_false] at hb
    rcases hb with h | h | h <;> exact hbyte h (by omega) (by omega)
  · simp only [List.mem_cons, List.not_mem_nil, or_false] at hb
    rcases hb with h | h | h | h <;> exact hbyte h (by omega) (by omega)

/-- The byte of an ASCII character is found only where the character is. -/
theorem mem_of_mem_utf8Encode {c : Char} (hc : c.toNat < 0x80) {cs : List Char}
    (h : UInt8.ofNat c.toNat ∈ utf8Encode cs) : c ∈ cs := by
  induction cs with
  | nil => cases h
  | cons d ds ih =>
    rw [utf8Encode, List.flatMap_cons, List.mem_append] at h
    rcases h with h | h
    · by_cases hd : d.toNat < 0x80
      · have hone : String.utf8EncodeChar d = [UInt8.ofNat d.toNat] := if_pos (Nat.le_of_lt_succ hd)
        rw [hone, List.mem_singleton] at h
        have hnat : c.toNat = d.toNat := by
          have := congrArg UInt8.toNat h
          rwa [toNat_ofNat_byte (by omega), toNat_ofNat_byte (by omega)] at this
        exact List.mem_cons.mpr (.inl (Char.toNat_inj.mp hnat))
      · have hlow := le_toNat_of_mem_utf8EncodeChar (Nat.not_lt.mp hd) h
        rw [toNat_ofNat_byte (by omega)] at hlow
        omega
    · exact List.mem_cons_of_mem _ (ih h)

/-- Text whose last byte is an ASCII character ends with this character. -/
theorem exists_eq_append_of_getLast?_utf8Encode {c : Char} (hc : c.toNat < 0x80) {cs : List Char}
    (h : (utf8Encode cs).getLast? = some (UInt8.ofNat c.toNat)) : ∃ ds, cs = ds ++ [c] := by
  rcases List.eq_nil_or_concat cs with rfl | ⟨ds, d, rfl⟩
  · cases h
  · have hlast : UInt8.ofNat c.toNat ∈ utf8Encode [d] := by
      have hne : utf8Encode [d] ≠ [] := by
        simp [utf8Encode, String.utf8EncodeChar_ne_nil]
      rw [List.concat_eq_append, utf8Encode_append, List.getLast?_append,
        Option.or_of_isSome (by simpa using hne)] at h
      exact List.mem_of_mem_getLast? h
    obtain rfl : c = d := List.mem_singleton.mp (mem_of_mem_utf8Encode hc hlast)
    exact ⟨ds, List.concat_eq_append⟩

/-! ### Only what was written is read -/

/-- No other byte starts a character. -/
theorem lead_broken {b : UInt8} (h : 0x80 ≤ b.toNat ∧ b.toNat < 0xC2 ∨ 0xF5 ≤ b.toNat) :
    Lead.ofByte b = .broken := by
  rcases h with ⟨hlow, hhigh⟩ | h
  · rw [Lead.ofByte, if_neg (by simpa [UInt8.lt_iff_toNat_lt] using hlow),
      if_pos (by simpa [UInt8.lt_iff_toNat_lt] using hhigh)]
  · have hbyte := b.toNat_lt
    obtain ⟨n, hn, hb⟩ : ∃ n < 11, b = UInt8.ofNat (n + 0xF5) :=
      ⟨b.toNat - 0xF5, by omega, by rw [Nat.sub_add_cancel h, UInt8.ofNat_toNat]⟩
    subst hb
    revert n
    decide

/-- What a byte is at the start of a character. -/
theorem lead_cases (b : UInt8) :
    (∃ n < 0x80, b = UInt8.ofNat n) ∨ (∃ n, 2 ≤ n ∧ n < 32 ∧ b = UInt8.ofNat (n + 0xC0)) ∨
      (∃ n < 16, b = UInt8.ofNat (n + 0xE0)) ∨ (∃ n < 5, b = UInt8.ofNat (n + 0xF0)) ∨
      Lead.ofByte b = .broken := by
  have hbyte := b.toNat_lt
  have hback {n : Nat} (h : n = b.toNat) : b = UInt8.ofNat n := by rw [h, UInt8.ofNat_toNat]
  by_cases hone : b.toNat < 0x80
  · exact .inl ⟨b.toNat, hone, hback rfl⟩
  by_cases hbroken : b.toNat < 0xC2 ∨ 0xF5 ≤ b.toNat
  · exact .inr (.inr (.inr (.inr (lead_broken (by omega)))))
  by_cases htwo : b.toNat < 0xE0
  · exact .inr (.inl ⟨b.toNat - 0xC0, by omega, by omega, hback (by omega)⟩)
  by_cases hthree : b.toNat < 0xF0
  · exact .inr (.inr (.inl ⟨b.toNat - 0xE0, by omega, hback (by omega)⟩))
  · exact .inr (.inr (.inr (.inl ⟨b.toNat - 0xF0, by omega, hback (by omega)⟩)))

/-- The character of a number, if it is one, has this number. -/
theorem val_ofNat {n : Nat} (h : n < 0xD800 ∨ 0xDFFF < n ∧ n < 0x110000) :
    (Char.ofNat n).val.toNat = n := by
  have hvalid : n.isValidChar := h
  rw [Char.ofNat, dif_pos hvalid]
  rfl

theorem utf8EncodeChar_one {n : Nat} (h : n < 0x80) :
    String.utf8EncodeChar (Char.ofNat n) = [UInt8.ofNat n] := by
  rw [String.utf8EncodeChar, val_ofNat (by omega), if_pos (by omega)]

theorem utf8EncodeChar_two {n m : Nat} (hlow : 2 ≤ n) (hhigh : n < 32) (hm : m < 64) :
    String.utf8EncodeChar (Char.ofNat (n * 64 + m)) =
      [UInt8.ofNat (n + 0xC0), UInt8.ofNat (m + 0x80)] := by
  have hfirst : (n * 64 + m) / 64 % 32 = n := by omega
  have hlast : (n * 64 + m) % 64 = m := by omega
  simp only [String.utf8EncodeChar, val_ofNat (n := n * 64 + m) (by omega)]
  rw [if_neg (by omega), if_pos (by omega), hfirst, hlast]

theorem utf8EncodeChar_three {n m k : Nat} (hn : n < 16) (hm : m < 64) (hk : k < 64)
    (hlow : n = 0 → 0x20 ≤ m) (hhigh : n = 13 → m < 0x20) :
    String.utf8EncodeChar (Char.ofNat ((n * 64 + m) * 64 + k)) =
      [UInt8.ofNat (n + 0xE0), UInt8.ofNat (m + 0x80), UInt8.ofNat (k + 0x80)] := by
  have hfirst : ((n * 64 + m) * 64 + k) / 4096 % 16 = n := by omega
  have hsecond : ((n * 64 + m) * 64 + k) / 64 % 64 = m := by omega
  have hlast : ((n * 64 + m) * 64 + k) % 64 = k := by omega
  simp only [String.utf8EncodeChar, val_ofNat (n := (n * 64 + m) * 64 + k) (by omega)]
  rw [if_neg (by omega), if_neg (by omega), if_pos (by omega), hfirst, hsecond, hlast]

theorem utf8EncodeChar_four {n m k j : Nat} (hn : n < 5) (hm : m < 64) (hk : k < 64) (hj : j < 64)
    (hlow : n = 0 → 0x10 ≤ m) (hhigh : n = 4 → m < 0x10) :
    String.utf8EncodeChar (Char.ofNat (((n * 64 + m) * 64 + k) * 64 + j)) =
      [UInt8.ofNat (n + 0xF0), UInt8.ofNat (m + 0x80), UInt8.ofNat (k + 0x80),
        UInt8.ofNat (j + 0x80)] := by
  have hfirst : (((n * 64 + m) * 64 + k) * 64 + j) / 262144 % 8 = n := by omega
  have hsecond : (((n * 64 + m) * 64 + k) * 64 + j) / 4096 % 64 = m := by omega
  have hthird : (((n * 64 + m) * 64 + k) * 64 + j) / 64 % 64 = k := by omega
  have hlast : (((n * 64 + m) * 64 + k) * 64 + j) % 64 = j := by omega
  simp only [String.utf8EncodeChar, val_ofNat (n := ((n * 64 + m) * 64 + k) * 64 + j) (by omega)]
  rw [if_neg (by omega), if_neg (by omega), if_neg (by omega), hfirst, hsecond, hthird, hlast]

/-- In the middle of a character that is not broken comes a further byte. -/
theorem exists_of_chunksFrom_some {p : Partial} {bs : Bytes} {cs : List Char}
    (h : chunksFrom (some p) bs = cs.map .char)
    (hrange : 0x80 ≤ p.low.toNat ∧ p.high.toNat ≤ 0xBF) :
    ∃ n rest, bs = UInt8.ofNat (n + 0x80) :: rest ∧ n < 64 ∧ p.low.toNat ≤ n + 0x80 ∧
      n + 0x80 ≤ p.high.toNat ∧
      (if p.owed ≤ 1 then .char (Char.ofNat (p.bits * 64 + n)) :: chunksFrom none rest
        else chunksFrom (some { owed := p.owed - 1, bits := p.bits * 64 + n }) rest) =
        cs.map .char := by
  cases bs with
  | nil => cases cs <;> cases h
  | cons b rest =>
    by_cases hb : p.low ≤ b ∧ b ≤ p.high
    · have hlow := UInt8.le_iff_toNat_le.mp hb.1
      have hhigh := UInt8.le_iff_toNat_le.mp hb.2
      have hback : b.toNat - 0x80 + 0x80 = b.toNat := by omega
      rw [chunksFrom, if_pos hb] at h
      exact ⟨b.toNat - 0x80, rest, by rw [hback, UInt8.ofNat_toNat], by omega, by omega, by omega, h⟩
    · rw [chunksFrom, if_neg hb] at h
      cases cs <;> cases h

/-- The last byte of several. -/
theorem exists_of_chunksFrom_last {bits : Nat} {bs : Bytes} {cs : List Char}
    (h : chunksFrom (some { owed := 1, bits }) bs = cs.map .char) :
    ∃ n rest ds, bs = UInt8.ofNat (n + 0x80) :: rest ∧ n < 64 ∧
      cs = Char.ofNat (bits * 64 + n) :: ds ∧ chunksFrom none rest = ds.map .char := by
  obtain ⟨n, rest, rfl, hn, -, -, hcs⟩ := exists_of_chunksFrom_some h (by simp)
  cases cs with
  | nil => cases hcs
  | cons c ds =>
    obtain ⟨hc, hds⟩ := List.cons.inj hcs
    exact ⟨n, rest, ds, rfl, hn, congrArg (· :: ds) (Chunk.char.inj hc).symm, hds⟩

/-- What is cut without a broken part starts with the bytes of a character. -/
theorem exists_of_chunksFrom_none {b : UInt8} {bs : Bytes} {cs : List Char}
    (h : chunksFrom none (b :: bs) = cs.map .char) :
    ∃ c rest ds, b :: bs = String.utf8EncodeChar c ++ rest ∧ cs = c :: ds ∧
      chunksFrom none rest = ds.map .char := by
  rw [chunksFrom] at h
  -- The lead byte tells how many bytes follow, and its bounds on the second one are those under
  -- which there is a character with these bytes.
  rcases lead_cases b with ⟨n, hn, rfl⟩ | ⟨n, hlow, hhigh, rfl⟩ | ⟨n, hn, rfl⟩ | ⟨n, hn, rfl⟩ | hb
  · rw [lead_one hn] at h
    cases cs with
    | nil => cases h
    | cons c ds =>
      obtain ⟨hc, hds⟩ := List.cons.inj h
      obtain rfl := Chunk.char.inj hc
      exact ⟨_, bs, ds, by rw [utf8EncodeChar_one hn]; rfl, rfl, hds⟩
  · rw [lead_two hlow hhigh] at h
    obtain ⟨m, rest, ds, rfl, hm, rfl, hds⟩ := exists_of_chunksFrom_last h
    exact ⟨_, rest, ds, by rw [utf8EncodeChar_two hlow hhigh hm]; rfl, rfl, hds⟩
  · rw [lead_three hn] at h
    dsimp only at h
    obtain ⟨m, rest, rfl, hm, hmlow, hmhigh, hmore⟩ :=
      exists_of_chunksFrom_some h (by dsimp only; split <;> split <;> decide)
    dsimp only at hmlow hmhigh
    rw [if_neg (by simp)] at hmore
    obtain ⟨k, rest, ds, rfl, hk, rfl, hds⟩ := exists_of_chunksFrom_last hmore
    have hlow : n = 0 → 0x20 ≤ m := by rintro rfl; simp at hmlow; omega
    have hhigh : n = 13 → m < 0x20 := by rintro rfl; simp at hmhigh; omega
    exact ⟨_, rest, ds, by rw [utf8EncodeChar_three hn hm hk hlow hhigh]; rfl, rfl, hds⟩
  · rw [lead_four hn] at h
    dsimp only at h
    obtain ⟨m, rest, rfl, hm, hmlow, hmhigh, hmore⟩ :=
      exists_of_chunksFrom_some h (by dsimp only; split <;> split <;> decide)
    dsimp only at hmlow hmhigh
    rw [if_neg (by simp)] at hmore
    obtain ⟨k, rest, rfl, hk, -, -, hmore⟩ := exists_of_chunksFrom_some hmore (by simp)
    rw [if_neg (by simp)] at hmore
    obtain ⟨j, rest, ds, rfl, hj, rfl, hds⟩ := exists_of_chunksFrom_last hmore
    have hlow : n = 0 → 0x10 ≤ m := by rintro rfl; simp at hmlow; omega
    have hhigh : n = 4 → m < 0x10 := by rintro rfl; simp at hmhigh; omega
    exact ⟨_, rest, ds, by rw [utf8EncodeChar_four hn hm hk hj hlow hhigh]; rfl, rfl, hds⟩
  · rw [hb] at h
    cases cs <;> cases h

theorem utf8Encode_of_chunksFrom {bs : Bytes} {cs : List Char}
    (h : chunksFrom none bs = cs.map .char) : utf8Encode cs = bs := by
  induction cs generalizing bs with
  | nil =>
    cases bs with
    | nil => rfl
    | cons b bs =>
      obtain ⟨c, rest, ds, -, hcs, -⟩ := exists_of_chunksFrom_none h
      cases hcs
  | cons c cs ih =>
    cases bs with
    | nil => cases h
    | cons b bs =>
      obtain ⟨d, rest, ds, hbs, hcs, hds⟩ := exists_of_chunksFrom_none h
      obtain ⟨rfl, rfl⟩ := List.cons.inj hcs
      rw [hbs, utf8Encode, List.flatMap_cons]
      exact congrArg _ (ih hds)

theorem eq_map_of_mapM_char? {chunks : List Chunk} {cs : List Char}
    (h : chunks.mapM Chunk.char? = some cs) : chunks = cs.map .char := by
  induction chunks generalizing cs with
  | nil =>
    obtain rfl := Option.some.inj h
    rfl
  | cons chunk chunks ih =>
    rw [List.mapM_cons] at h
    cases chunk with
    | broken => cases h
    | char c =>
      cases hothers : chunks.mapM Chunk.char? with
      | none =>
        rw [hothers] at h
        cases h
      | some ds =>
        rw [hothers] at h
        obtain rfl := Option.some.inj h
        rw [List.map_cons, ih hothers]

/-- A text is read exactly from its own bytes. -/
theorem utf8Decode?_eq_some_iff {bs : Bytes} {cs : List Char} :
    utf8Decode? bs = some cs ↔ utf8Encode cs = bs := by
  constructor
  · exact fun h => utf8Encode_of_chunksFrom (eq_map_of_mapM_char? h)
  · rintro rfl
    exact utf8Decode?_utf8Encode cs

/-- What cannot be read are the bytes of no text. -/
theorem utf8Decode?_eq_none_iff {bs : Bytes} :
    utf8Decode? bs = none ↔ ∀ cs, utf8Encode cs ≠ bs := by
  simp only [Option.eq_none_iff_forall_not_mem, Option.mem_def, utf8Decode?_eq_some_iff, ne_eq]

end FlashSale.Text
