import FlashSale.Proofs.Catalogue.Listing
import FlashSale.Proofs.Catalogue.Stored

/-! # Catalogues that are written and read back

    Ids and counts have no sign, but they are stored as integers that have one.
    So a written catalogue comes back as it was if all its products are sound,
    and is refused otherwise; it never comes back as another one. -/

namespace FlashSale

/-- Two statuses are not stored as one number. -/
theorem SaleStatus.number_inj {s t : SaleStatus} (h : s.number.toInt = t.number.toInt) : s = t := by
  cases s <;> cases t <;> first | rfl | cases h

namespace Product

/-! ### What is written -/

/-- The integers that a product is stored as. -/
def toRow (p : Product) : Row :=
  { productId := p.id.toNat, startTime := p.startTime.toInt, endTime := p.endTime.toInt
    status := p.status.number.toInt, count := p.count.toNat, left := p.left.toNat }

/-- An id or a count is too great for a number with a sign. -/
def IsHuge (p : Product) : Prop :=
  2 ^ 63 ≤ p.id.toNat ∨ 2 ^ 63 ≤ p.count.toNat ∨ 2 ^ 63 ≤ p.left.toNat

/-- The stored form of a product has all its fields. -/
theorem shown_toJson (p : Product) : p.toRow.Shown p.toJson := by
  apply Row.Shown.object
  · -- The names are known, and none of them comes twice.
    apply Json.hasFields_ofMembers
    show (["Count", "EndTime", "Left", "ProductId", "StartTime", "Status"]).Nodup
    decide
  · exact ⟨rfl, rfl, rfl, rfl, .inl ⟨_, rfl, rfl⟩, .inl ⟨_, rfl, rfl⟩⟩

theorem writtenAs_toJson (p : Product) : Json.WrittenAs p.toJson p.toJson.render := by
  apply Json.writtenAs_ofMembers
  simp [Json.writtenAs_ofInt]

/-- A written catalogue is a text of its integers. -/
theorem listWrittenAs_writeList (products : List Product) :
    Row.ListWrittenAs (products.map toRow) (writeList products) := by
  refine ⟨products.map toJson, ?_, ?_⟩
  · rw [List.forall₂_map_left_iff, List.forall₂_map_right_iff, List.forall₂_same]
    intro p _
    exact p.shown_toJson
  · apply Json.WrittenAs.padded
    apply Json.writtenAs_array
    intro v hv
    obtain ⟨p, -, rfl⟩ := List.mem_map.mp hv
    exact p.writtenAs_toJson

/-! ### One product -/

theorem Row.faults_eq_nil_iff {r : Row} :
    r.faults = [] ↔ 0 < r.productId ∧ r.startTime < r.endTime ∧ 0 ≤ r.count ∧ 0 ≤ r.left ∧
      r.status ∈ [0, 1, 2] := by
  simp only [faults, List.append_eq_nil_iff, ite_eq_right_iff, ite_eq_left_iff, List.cons_ne_nil,
    imp_false, not_not, not_or, Int.not_le, Int.not_lt, and_assoc]

variable {p q : Product}

/-- Times and the number of a status always fit. -/
theorem fits_toRow_iff : p.toRow.Fits ↔ ¬p.IsHuge := by
  have hstart := p.startTime.le_toInt
  have hstart' := p.startTime.toInt_lt
  have hend := p.endTime.le_toInt
  have hend' := p.endTime.toInt_lt
  have hstatus := p.status.number.le_toInt
  have hstatus' := p.status.number.toInt_lt
  simp only [Row.Fits, Row.values, toRow, IsHuge, List.forall_mem_cons, List.not_mem_nil,
    false_implies, implies_true, and_true]
  omega

/-- Apart from what does not fit, only the id and the window can be at fault. -/
theorem faults_toRow_eq_nil_iff :
    p.toRow.faults = [] ↔ 1 ≤ p.id.toNat ∧ p.startTime < p.endTime := by
  have hstatus : p.toRow.status ∈ [0, 1, 2] := by
    show p.status.number.toInt ∈ _
    cases p.status <;> decide
  rw [Row.faults_eq_nil_iff, Int64.lt_iff_toInt_lt]
  simp only [hstatus, and_true]
  show 0 < (p.id.toNat : Int) ∧ _ ∧ 0 ≤ (p.count.toNat : Int) ∧ 0 ≤ (p.left.toNat : Int) ↔ _
  constructor
  · rintro ⟨hid, hwindow, -⟩
    exact ⟨by omega, hwindow⟩
  · rintro ⟨hid, hwindow⟩
    exact ⟨by omega, hwindow, by omega, by omega⟩

theorem sound_iff : p.Sound ↔ p.toRow.Fits ∧ p.toRow.faults = [] := by
  rw [fits_toRow_iff, faults_toRow_eq_nil_iff]
  constructor
  · intro h
    have hid := h.id_lt
    have hcount := h.count_lt
    have hleft := h.left_lt
    refine ⟨?_, h.one_le_id, h.window⟩
    unfold IsHuge
    omega
  · rintro ⟨hsmall, hid, hwindow⟩
    unfold IsHuge at hsmall
    exact ⟨hid, by omega, hwindow, by omega, by omega⟩

/-- The integers of a product describe no other one. -/
theorem eq_of_describes_toRow (h : p.toRow.Describes q) : q = p := by
  have hid : q.id = p.id := UInt64.toNat_inj.mp (Int.ofNat.inj h.id)
  have hcount : q.count = p.count := UInt64.toNat_inj.mp (Int.ofNat.inj h.count)
  have hleft : q.left = p.left := UInt64.toNat_inj.mp (Int.ofNat.inj h.left)
  have hstart : q.startTime = p.startTime := Int64.toInt_inj.mp h.startTime
  have hend : q.endTime = p.endTime := Int64.toInt_inj.mp h.endTime
  have hstatus : q.status = p.status := SaleStatus.number_inj h.status
  cases p
  cases q
  simp_all

/-- A record whose integers fit becomes the product it was written from, or
    none. -/
theorem toProduct_toRow_eq_ok_iff (hfits : p.toRow.Fits) :
    p.toRow.record.toProduct = .ok q ↔ p.Sound ∧ q = p := by
  rw [sound_iff]
  rcases Row.toProduct_record hfits with ⟨fault, more, hfaults, herror⟩ | ⟨hnone, p', hok, hp'⟩
  · simp [hfaults, herror]
  · obtain rfl := eq_of_describes_toRow hp'
    simp [hfits, hnone, hok, eq_comm]

/-- No check on a record makes the text unreadable. -/
theorem Record.toProduct_ne_unreadable (r : Record) : r.toProduct ≠ .error .unreadable := by
  unfold toProduct
  intro h
  split at h
  · cases h
  split at h
  · cases h
  split at h
  · cases h
  split at h <;> cases h

/-! ### Lists of products -/

variable {products : List Product}

theorem readList_writeList_of_isHuge (h : ∃ p ∈ products, p.IsHuge) :
    readList (writeList products) = .error .unreadable := by
  obtain ⟨p, hp, hhuge⟩ := h
  refine Row.readList_of_not_fits (listWrittenAs_writeList products) (List.mem_map_of_mem hp) ?_
  rw [fits_toRow_iff]
  exact not_not_intro hhuge

/-- Without huge numbers all records are read, and then checked. -/
theorem readList_writeList_of_not_isHuge (h : ∀ p ∈ products, ¬p.IsHuge) :
    readList (writeList products) =
      products.mapM fun p => p.toRow.record.toProduct := by
  rw [Row.readList_of_fits (listWrittenAs_writeList products), List.map_map, List.mapM_map]
  · rfl
  · intro r hr
    obtain ⟨p, hp, rfl⟩ := List.mem_map.mp hr
    exact fits_toRow_iff.mpr (h p hp)

/-- Each record becomes the product it was written from, or none. -/
theorem forall₂_toProduct_iff {others : List Product} (h : ∀ p ∈ products, ¬p.IsHuge) :
    List.Forall₂ (fun p q => p.toRow.record.toProduct = .ok q) products others ↔
      (∀ p ∈ products, p.Sound) ∧ others = products := by
  induction products generalizing others with
  | nil =>
    rw [List.forall₂_nil_left_iff]
    simp
  | cons p rest ih =>
    obtain ⟨hp, hrest⟩ := List.forall_mem_cons.mp h
    have hfits := fits_toRow_iff.mpr hp
    cases others with
    | nil => simp
    | cons q others =>
      rw [List.forall₂_cons, toProduct_toRow_eq_ok_iff hfits, List.forall_mem_cons,
        List.cons.injEq]
      have hothers := @ih others hrest
      tauto

/-- A written catalogue is read as itself, if all products are sound. -/
theorem readList_writeList_eq_ok_iff {others : List Product} :
    readList (writeList products) = .ok others ↔ (∀ p ∈ products, p.Sound) ∧ others = products := by
  by_cases hhuge : ∃ p ∈ products, p.IsHuge
  · -- A huge number is in no sound product.
    rw [readList_writeList_of_isHuge hhuge]
    obtain ⟨p, hp, hhuge⟩ := hhuge
    have hunsound : ¬∀ p ∈ products, p.Sound := fun hsound =>
      fits_toRow_iff.mp (sound_iff.mp (hsound p hp)).1 hhuge
    simp [hunsound]
  · have hsmall : ∀ p ∈ products, ¬p.IsHuge := by simpa using hhuge
    rw [readList_writeList_of_not_isHuge hsmall, mapM_eq_ok_iff]
    exact forall₂_toProduct_iff hsmall

/-- It is unreadable exactly if a number is huge, whatever else is wrong. -/
theorem readList_writeList_eq_unreadable_iff :
    readList (writeList products) = .error .unreadable ↔ ∃ p ∈ products, p.IsHuge := by
  refine ⟨fun h => ?_, readList_writeList_of_isHuge⟩
  by_contra hhuge
  have hsmall : ∀ p ∈ products, ¬p.IsHuge := by simpa using hhuge
  rw [readList_writeList_of_not_isHuge hsmall, mapM_eq_error_iff] at h
  obtain ⟨before, p, after, found, -, -, hp⟩ := h
  exact p.toRow.record.toProduct_ne_unreadable hp

/-- A written catalogue comes back as it was if every product is sound, and is
    refused if one is not; it never comes back as another one.  It is refused
    as unreadable exactly if an id or a count is too great for a number with a
    sign. -/
theorem readList_writeList (products : List Product) :
    ((∀ p ∈ products, p.Sound) → readList (writeList products) = .ok products) ∧
    ((∃ p ∈ products, ¬p.Sound) → ∃ fault, readList (writeList products) = .error fault) ∧
    (∀ others, readList (writeList products) = .ok others → others = products) ∧
    ∀ fault, readList (writeList products) = .error fault →
      (fault = .unreadable ↔
        ∃ p ∈ products, 2 ^ 63 ≤ p.id.toNat ∨ 2 ^ 63 ≤ p.count.toNat ∨ 2 ^ 63 ≤ p.left.toNat) := by
  refine ⟨fun hsound => ?_, fun hunsound => ?_, fun others hothers => ?_, fun fault hfault => ?_⟩
  · exact readList_writeList_eq_ok_iff.mpr ⟨hsound, rfl⟩
  · cases hread : readList (writeList products) with
    | error fault => exact ⟨fault, rfl⟩
    | ok others =>
      -- What is not refused has only sound products.
      obtain ⟨p, hp, hnot⟩ := hunsound
      exact absurd ((readList_writeList_eq_ok_iff.mp hread).1 p hp) hnot
  · exact (readList_writeList_eq_ok_iff.mp hothers).2
  · show fault = .unreadable ↔ ∃ p ∈ products, p.IsHuge
    rw [← readList_writeList_eq_unreadable_iff, hfault, Except.error.injEq]

/-- The greatest id and count that can be stored, and one more: the second list
    has a product without an id before the huge one, and still it is unreadable;
    the third one is refused for its window alone. -/
theorem readList_writeList_at_bounds :
    let greatest : Product :=
      { id := 0x7FFFFFFFFFFFFFFF, startTime := .minValue, endTime := .maxValue
        status := .forceSoldOut, count := 0x7FFFFFFFFFFFFFFF, left := 0 }
    let nameless : Product := { greatest with id := 0 }
    let huge : Product := { greatest with left := 0x8000000000000000 }
    let closed : Product := { greatest with startTime := 5, endTime := 5 }
    ((∀ p ∈ [greatest, greatest], p.Sound) ∧
      readList (writeList [greatest, greatest]) = .ok [greatest, greatest]) ∧
    readList (writeList [nameless, huge]) = .error .unreadable ∧
    ∃ fault, readList (writeList [greatest, closed]) = .error fault ∧ fault ≠ .unreadable := by
  intro greatest nameless huge closed
  have hgreatest : greatest.Sound :=
    ⟨by decide +kernel, by decide +kernel, by decide +kernel, by decide +kernel, by decide +kernel⟩
  have hsound : ∀ p ∈ [greatest, greatest], p.Sound := by simp [hgreatest]
  have hnameless : ¬nameless.Sound := fun h => absurd h.one_le_id (by decide)
  have hclosed : ¬closed.Sound := fun h => absurd h.window (by decide)
  refine ⟨⟨hsound, (readList_writeList _).1 hsound⟩, ?_, ?_⟩
  · obtain ⟨-, hrefused, -, hwhy⟩ := readList_writeList [nameless, huge]
    obtain ⟨fault, hfault⟩ := hrefused ⟨nameless, by simp, hnameless⟩
    rw [hfault, (hwhy fault hfault).mpr ⟨huge, by simp, .inr (.inr (by decide +kernel))⟩]
  · obtain ⟨-, hrefused, -, hwhy⟩ := readList_writeList [greatest, closed]
    obtain ⟨fault, hfault⟩ := hrefused ⟨closed, by simp, hclosed⟩
    refine ⟨fault, hfault, fun hunreadable => ?_⟩
    have hhuge := (hwhy fault hfault).mp hunreadable
    revert hhuge
    decide +kernel

end Product

end FlashSale
