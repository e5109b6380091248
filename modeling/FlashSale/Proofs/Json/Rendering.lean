import FlashSale.Proofs.Json.Grammar
import FlashSale.Proofs.Text.Decimal
import FlashSale.Proofs.Text.Percent

/-! # What is written obeys the grammar

    The writer chooses one of the many texts of a value: without white space,
    and with an escape only where one is needed. -/

namespace FlashSale.Json

open Text

/-! ### Strings -/

/-- A digit of an escape is read back. -/
theorem hexByteValue?_digit {n : Nat} (h : n < 16) :
    hexByteValue? (UInt8.ofNat (hexDigit n).toNat) = some n :=
  Percent.hexByteValue?_ofNat (hexValue?_hexDigit h)

/-- A control character may be written by its number. -/
theorem writtenAs_unitEscape {b : UInt8} (h : b < 0x20) :
    Piece.WrittenAs (.byte b) (unitEscape b.toNat) := by
  have hsmall : b.toNat < 32 := UInt8.lt_iff_toNat_lt.mp h
  have hdigit (k : Nat) : hexByteValue? (UInt8.ofNat (hexDigit (b.toNat / k % 16)).toNat) =
      some (b.toNat / k % 16) :=
    hexByteValue?_digit (Nat.mod_lt _ (by decide))
  have hvalue : 16 * (16 * (16 * (b.toNat / 4096 % 16) + b.toNat / 256 % 16) + b.toNat / 16 % 16) +
      b.toNat / 1 % 16 = b.toNat := by
    omega
  have hunit := Piece.WrittenAs.unit (hdigit 4096) (hdigit 256) (hdigit 16) (hdigit 1)
  rw [hvalue, Reader.unitPiece, if_pos (by omega), UInt8.ofNat_toNat] at hunit
  exact hunit

/-- Every byte is written as it may be. -/
theorem writtenAs_escapeByte (b : UInt8) : Piece.WrittenAs (.byte b) (escapeByte b) := by
  by_cases hshort : b ∈ [0x22, 0x5C, 0x08, 0x09, 0x0A, 0x0C, 0x0D]
  · simp only [List.mem_cons, List.not_mem_nil, or_false] at hshort
    rcases hshort with rfl | rfl | rfl | rfl | rfl | rfl | rfl <;> exact .short (by decide)
  · simp only [List.mem_cons, List.not_mem_nil, or_false, not_or] at hshort
    obtain ⟨hquote, hbackslash, hrest⟩ := hshort
    simp only [escapeByte, hquote, hbackslash, hrest, if_false]
    split
    · next hcontrol => exact writtenAs_unitEscape hcontrol
    · next hprinted => exact .plain (UInt8.not_lt.mp hprinted) hquote hbackslash

theorem piecesWrittenAs_bytes (bs : Bytes) :
    PiecesWrittenAs (bs.map .byte) ((bs.map .byte).flatMap renderPiece) := by
  induction bs with
  | nil => exact .nil
  | cons b bs ih => exact .cons (writtenAs_escapeByte b) ih

theorem writtenAs_ofString (s : String) : WrittenAs (ofString s) (ofString s).render := by
  rw [ofString, render]
  exact .string (piecesWrittenAs_bytes (bytesOf s))

theorem writtenAs_bool (b : Bool) : WrittenAs (.bool b) (Json.bool b).render := by
  cases b with
  | true => exact .true
  | false => exact .false

/-! ### Numbers -/

theorem isWhole_decimal (n : Nat) : IsWhole ((decimal n).map fun c => UInt8.ofNat c.toNat) := by
  have hdigits : ∀ c ∈ decimal n, c.isDigit := fun c => isDigit_of_mem_decimal
  -- A digit and its byte are the same number.
  have hbyte {c : Char} (hc : c.isDigit) {low : UInt8} (hlow : low.toNat ≤ c.toNat) :
      low ≤ UInt8.ofNat c.toNat ∧ UInt8.ofNat c.toNat ≤ 0x39 := by
    have hrange := range_of_isDigit hc
    rw [UInt8.le_iff_toNat_le, UInt8.le_iff_toNat_le, toNat_ofNat_byte (by omega)]
    exact ⟨hlow, hrange.2⟩
  by_cases hn : n = 0
  · rw [hn]
    exact .zero
  · obtain ⟨c, cs, hdecimal, hzero⟩ := exists_decimal_eq_cons hn
    rw [hdecimal] at hdigits ⊢
    obtain ⟨hfirst, hothers⟩ := List.forall_mem_cons.mp hdigits
    have hpositive : 49 ≤ c.toNat := by
      have hrange := range_of_isDigit hfirst
      have hne : c.toNat ≠ 48 := fun heq => hzero (Char.toNat_inj.mp heq)
      omega
    rw [List.map_cons]
    refine .digits (hbyte hfirst hpositive) fun b hb => ?_
    obtain ⟨d, hd, rfl⟩ := List.mem_map.mp hb
    exact hbyte (hothers d hd) (range_of_isDigit (hothers d hd)).1

theorem writtenAs_ofInt (i : Int) : WrittenAs (ofInt i) (ofInt i).render := by
  have hwhole := isWhole_decimal i.natAbs
  rw [ofInt, render]
  refine .number ?_
  unfold decimalInt
  by_cases hi : i < 0
  · rw [if_pos hi]
    have hnumber := IsNumber.mk (.inr rfl) hwhole .none .none
    rw [List.append_nil, List.append_nil] at hnumber
    exact hnumber
  · rw [if_neg hi]
    have hnumber := IsNumber.mk (.inl rfl) hwhole .none .none
    rw [List.append_nil, List.append_nil] at hnumber
    exact hnumber

/-! ### Containers -/

theorem WrittenAs.padded {v : Json} {text : Bytes} (h : WrittenAs v text) : PaddedAs v text := by
  have hpadded := PaddedAs.mk isSpace_nil h isSpace_nil
  rw [List.append_nil, List.nil_append] at hpadded
  exact hpadded

theorem itemsWrittenAs_renderItems {items : List Json} (hne : items ≠ [])
    (h : ∀ v ∈ items, WrittenAs v v.render) : ItemsWrittenAs items (renderItems items) := by
  induction items with
  | nil => exact absurd rfl hne
  | cons v items ih =>
    obtain ⟨hfirst, hothers⟩ := List.forall_mem_cons.mp h
    cases items with
    | nil => exact .one hfirst.padded
    | cons w items => exact .more hfirst.padded (ih (List.cons_ne_nil _ _) hothers)

theorem writtenAs_array {items : List Json} (h : ∀ v ∈ items, WrittenAs v v.render) :
    WrittenAs (.array items) (Json.array items).render := by
  rw [render]
  cases items with
  | nil => exact .emptyArray isSpace_nil
  | cons v items => exact .array (itemsWrittenAs_renderItems (List.cons_ne_nil _ _) h)

theorem memberWrittenAs {name : String} {v : Json} (h : WrittenAs v v.render) :
    MemberWrittenAs (piecesOf name, v) (renderString (piecesOf name) ++ 0x3A :: v.render) := by
  have hmember := MemberWrittenAs.mk isSpace_nil (piecesWrittenAs_bytes (bytesOf name)) isSpace_nil
    h.padded
  rw [renderString, List.cons_append, List.append_assoc]
  exact hmember

theorem membersWrittenAs_renderMembers {members : List (String × Json)} (hne : members ≠ [])
    (h : ∀ m ∈ members, WrittenAs m.2 m.2.render) :
    MembersWrittenAs (members.map fun (name, v) => (piecesOf name, v))
      (renderMembers (members.map fun (name, v) => (piecesOf name, v))) := by
  induction members with
  | nil => exact absurd rfl hne
  | cons m members ih =>
    obtain ⟨name, v⟩ := m
    obtain ⟨hfirst, hothers⟩ := List.forall_mem_cons.mp h
    cases members with
    | nil => exact .one (memberWrittenAs hfirst)
    | cons m' members =>
      have hmember : MemberWrittenAs (piecesOf name, v) _ := memberWrittenAs hfirst
      have hmore := MembersWrittenAs.more hmember (ih (List.cons_ne_nil _ _) hothers)
      rw [List.append_assoc] at hmore
      exact hmore

theorem writtenAs_ofMembers {members : List (String × Json)}
    (h : ∀ m ∈ members, WrittenAs m.2 m.2.render) :
    WrittenAs (ofMembers members) (ofMembers members).render := by
  rw [ofMembers, render]
  cases members with
  | nil => exact .emptyObject isSpace_nil
  | cons m members => exact .object (membersWrittenAs_renderMembers (List.cons_ne_nil _ _) h)

end FlashSale.Json
