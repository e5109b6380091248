import FlashSale.Catalogue.Update
import FlashSale.Proofs.Word
import Mathlib.Data.List.Basic
import Mathlib.Data.List.Induction

/-! # Listings of products

    Whatever was read from a store has passed the checks on its records, and a
    catalogue lists it by ids that only go up.  Ids and counts are stored with
    a sign, so they stay below half of their range.  Under each id there is the
    last of the products that were given with it. -/

namespace FlashSale

/-! ### Records that pass the checks -/

/-- A product as the checks on stored records let it pass. -/
structure Product.Sound (p : Product) : Prop where
  one_le_id : 1 ≤ p.id.toNat
  id_lt : p.id.toNat < 2 ^ 63
  window : p.startTime < p.endTime
  count_lt : p.count.toNat < 2 ^ 63
  left_lt : p.left.toNat < 2 ^ 63

namespace Product

theorem Record.sound_of_toProduct {r : Record} {p : Product} (h : r.toProduct = .ok p) :
    p.Sound := by
  unfold Record.toProduct at h
  split at h
  · cases h
  next hid =>
  split at h
  · cases h
  next hwindow =>
  split at h
  · cases h
  next hcounts =>
  split at h
  · cases h
  next status hstatus =>
  -- All checks were passed, and the fields are those of the record.
  obtain rfl := Except.ok.inj h
  have hid : 0 < r.productId := Int64.not_le.mp hid
  obtain ⟨hcount, hleft⟩ := not_or.mp hcounts
  obtain ⟨hvalue, hlt⟩ := toNat_toUInt64 (Int64.le_of_lt hid)
  have hpos : 0 < r.productId.toInt := Int64.lt_iff_toInt_lt.mp hid
  exact {
    one_le_id := by
      show 1 ≤ r.productId.toUInt64.toNat
      omega
    id_lt := hlt
    window := Int64.not_le.mp hwindow
    count_lt := (toNat_toUInt64 (Int64.not_lt.mp hcount)).2
    left_lt := (toNat_toUInt64 (Int64.not_lt.mp hleft)).2 }

theorem sound_of_mapM_toProduct {records : List Record} {products : List Product}
    (h : records.mapM Record.toProduct = .ok products) : ∀ p ∈ products, p.Sound := by
  induction records generalizing products with
  | nil =>
    obtain rfl := Except.ok.inj h
    simp
  | cons r records ih =>
    rw [List.mapM_cons] at h
    cases hr : r.toProduct with
    | error fault =>
      rw [hr] at h
      cases h
    | ok p =>
      cases hrest : records.mapM Record.toProduct with
      | error fault =>
        rw [hr, hrest] at h
        cases h
      | ok rest =>
        rw [hr, hrest] at h
        obtain rfl := Except.ok.inj h
        exact List.forall_mem_cons.mpr ⟨r.sound_of_toProduct hr, ih hrest⟩

/-- What is read from a stored value is sound. -/
theorem sound_of_readList {text : Text.Bytes} {products : List Product}
    (h : readList text = .ok products) : ∀ p ∈ products, p.Sound := by
  unfold readList at h
  split at h
  · cases h
  · exact sound_of_mapM_toProduct h

end Product

namespace Catalogue

/-! ### Order by id -/

/-- The ids of the products go up. -/
def Ascending (products : List Product) : Prop :=
  products.Pairwise fun p q => p.id < q.id

theorem mem_insert {p q : Product} {products : List Product} (h : q ∈ insert p products) :
    q = p ∨ q ∈ products := by
  induction products with
  | nil => exact .inl (List.mem_singleton.mp h)
  | cons other rest ih =>
    unfold insert at h
    split at h
    · exact List.mem_cons.mp h
    · split at h
      · rcases List.mem_cons.mp h with rfl | h
        · exact .inl rfl
        · exact .inr (List.mem_cons_of_mem _ h)
      · rcases List.mem_cons.mp h with rfl | h
        · exact .inr List.mem_cons_self
        · exact (ih h).imp_right (List.mem_cons_of_mem _)

theorem ascending_insert (p : Product) {products : List Product} (h : Ascending products) :
    Ascending (insert p products) := by
  induction products with
  | nil => exact List.pairwise_singleton _ p
  | cons q rest ih =>
    obtain ⟨hfirst, hrest⟩ := List.pairwise_cons.mp h
    unfold insert
    split
    · next hlt =>
      -- It comes before all others, for it comes before the first of them.
      refine List.pairwise_cons.mpr ⟨fun other hother => ?_, h⟩
      rcases List.mem_cons.mp hother with rfl | hother
      · exact hlt
      · exact UInt64.lt_trans hlt (hfirst other hother)
    · next hnlt =>
      split
      · next heq =>
        refine List.pairwise_cons.mpr ⟨fun other hother => ?_, hrest⟩
        rw [heq]
        exact hfirst other hother
      · next hne =>
        refine List.pairwise_cons.mpr ⟨fun other hother => ?_, ih hrest⟩
        rcases mem_insert hother with rfl | hother
        · exact UInt64.lt_of_le_of_ne (UInt64.not_lt.mp hnlt) (Ne.symm hne)
        · exact hfirst other hother

theorem ascending_foldl_insert (products : List Product) {sorted : List Product}
    (h : Ascending sorted) :
    Ascending (products.foldl (fun sorted p => insert p sorted) sorted) := by
  induction products generalizing sorted with
  | nil => exact h
  | cons p rest ih => exact ih (ascending_insert p h)

theorem mem_foldl_insert {products sorted : List Product} {q : Product}
    (h : q ∈ products.foldl (fun sorted p => insert p sorted) sorted) :
    q ∈ sorted ∨ q ∈ products := by
  induction products generalizing sorted with
  | nil => exact .inl h
  | cons p rest ih =>
    rcases ih h with h | h
    · rcases mem_insert h with rfl | h
      · exact .inr List.mem_cons_self
      · exact .inl h
    · exact .inr (List.mem_cons_of_mem _ h)

/-- A catalogue lists its products by ids that go up. -/
theorem ascending_ofProducts (revision : Int64) (products : List Product) :
    Ascending (ofProducts revision products).products :=
  ascending_foldl_insert products List.Pairwise.nil

/-- A catalogue lists no other products than those it was made of. -/
theorem mem_of_mem_ofProducts {revision : Int64} {products : List Product} {p : Product}
    (h : p ∈ (ofProducts revision products).products) : p ∈ products :=
  (mem_foldl_insert h).resolve_left List.not_mem_nil

/-! ### Products by their ids -/

/-- In an ascending list a product is found exactly if it is there. -/
theorem Ascending.find?_eq_some_iff {products : List Product} (h : Ascending products)
    {id : UInt64} {p : Product} :
    products.find? (fun q => q.id == id) = some p ↔ p ∈ products ∧ p.id = id := by
  constructor
  · intro hfind
    exact ⟨List.mem_of_find?_eq_some hfind, by simpa using List.find?_some hfind⟩
  · rintro ⟨hmem, rfl⟩
    induction products with
    | nil => cases hmem
    | cons q rest ih =>
      obtain ⟨hfirst, hrest⟩ := List.pairwise_cons.mp h
      rcases List.mem_cons.mp hmem with rfl | hmem
      · simp
      · -- The first one has a smaller id.
        have hne : q.id ≠ p.id := UInt64.ne_of_lt (hfirst p hmem)
        rw [List.find?_cons_of_neg (by simpa using hne)]
        exact ih hrest hmem

theorem find?_insert (p : Product) (products : List Product) (id : UInt64) :
    (insert p products).find? (fun q => q.id == id) =
      if p.id = id then some p else products.find? fun q => q.id == id := by
  induction products with
  | nil =>
    by_cases hp : p.id = id
    · simp [insert, hp]
    · simp [insert, hp]
  | cons q rest ih =>
    unfold insert
    by_cases hp : p.id = id
    · subst hp
      rw [if_pos rfl] at ih ⊢
      split
      · simp
      · split
        · simp
        · next hne => rw [List.find?_cons_of_neg (by simpa using Ne.symm hne), ih]
    · rw [if_neg hp] at ih ⊢
      split
      · rw [List.find?_cons_of_neg (by simpa using hp)]
      · split
        · next heq =>
          rw [List.find?_cons_of_neg (by simpa using hp),
            List.find?_cons_of_neg (by simpa [← heq] using hp)]
        · rw [List.find?_cons, List.find?_cons, ih]

/-- Of the products with one id the last is found. -/
theorem find?_ofProducts (revision : Int64) (products : List Product) (id : UInt64) :
    (ofProducts revision products).find? id = products.reverse.find? fun p => p.id == id := by
  show (products.foldl (fun sorted p => insert p sorted) []).find? _ = _
  induction products using List.reverseRecOn with
  | nil => rfl
  | append_singleton products p ih =>
    rw [List.foldl_concat, find?_insert, ih, List.reverse_append, List.reverse_singleton,
      List.singleton_append, List.find?_cons]
    by_cases hp : p.id = id
    · simp [hp]
    · simp [hp, beq_false_of_ne hp]

/-- The ids of a catalogue are those of the products it was made of. -/
theorem mem_ids_ofProducts {revision : Int64} {products : List Product} {id : UInt64} :
    id ∈ (ofProducts revision products).products.map Product.id ↔
      id ∈ products.map Product.id := by
  constructor
  · intro hmem
    obtain ⟨p, hp, rfl⟩ := List.mem_map.mp hmem
    exact List.mem_map.mpr ⟨p, mem_of_mem_ofProducts hp, rfl⟩
  · intro hmem
    obtain ⟨p, hp, rfl⟩ := List.mem_map.mp hmem
    have hsome : ((ofProducts revision products).find? p.id).isSome := by
      rw [find?_ofProducts, List.find?_isSome]
      exact ⟨p, List.mem_reverse.mpr hp, beq_self_eq_true _⟩
    obtain ⟨q, hq⟩ := Option.isSome_iff_exists.mp hsome
    have hlisted := (ascending_ofProducts revision products).find?_eq_some_iff.mp hq
    exact List.mem_map.mpr ⟨q, hlisted⟩

end Catalogue

end FlashSale
