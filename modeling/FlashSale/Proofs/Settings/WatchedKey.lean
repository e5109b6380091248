import FlashSale.Settings.Basic
import Mathlib.Data.List.DropRight

/-! # Slashes in the watched key

    The key that is watched has two parts, with slashes between them.  Slashes
    that the second part begins with are dropped.  Those that the first part
    ends with are kept, and one is put there if there is none; so there is
    exactly one between the parts unless the first part ends with several. -/

namespace FlashSale.Settings

open Text

/-! ### The parts -/

/-- What the key starts with, without slashes at its end. -/
def stem (s : Settings) : List Char :=
  dropEndWhile (· == '/') s.keyPrefix.toList

/-- How many slashes the first part ends with. -/
def slashes (s : Settings) : Nat :=
  (s.keyPrefix.toList.rtakeWhile (· == '/')).length

/-- What the key ends with, without slashes at its start. -/
def leaf (s : Settings) : List Char :=
  s.productKey.toList.dropWhile (· == '/')

theorem rtakeWhile_eq_replicate (s : Settings) :
    s.keyPrefix.toList.rtakeWhile (· == '/') = List.replicate s.slashes '/' := by
  apply List.eq_replicate_of_mem
  intro c hc
  simpa using List.mem_rtakeWhile_imp hc

/-- The first part is its stem, and the slashes behind it. -/
theorem keyPrefix_eq (s : Settings) :
    s.keyPrefix.toList = s.stem ++ List.replicate s.slashes '/' := by
  rw [← rtakeWhile_eq_replicate, stem, dropEndWhile, List.rtakeWhile, ← List.reverse_append,
    List.takeWhile_append_dropWhile, List.reverse_reverse]

theorem getLast?_keyPrefix_iff (s : Settings) :
    s.keyPrefix.toList.getLast? = some '/' ↔ s.slashes ≠ 0 := by
  constructor
  · intro hlast hnone
    obtain ⟨cs, hcs⟩ := List.getLast?_eq_some_iff.mp hlast
    rw [slashes, hcs, List.rtakeWhile_concat_pos _ _ _ (by simp)] at hnone
    simp at hnone
  · intro hsome
    obtain ⟨n, hn⟩ := Nat.exists_eq_succ_of_ne_zero hsome
    rw [keyPrefix_eq, hn, List.replicate_succ', ← List.append_assoc, List.getLast?_concat]

/-! ### The key -/

/-- No slash between the parts is as good as one. -/
theorem watchedKey_eq (s : Settings) :
    s.watchedKey.toList = s.stem ++ (List.replicate (max 1 s.slashes) '/' ++ s.leaf) := by
  show (String.ofList (s.keyPrefix.toList ++ _ ++ s.leaf)).toList = _
  rw [String.toList_ofList]
  by_cases hslashes : s.slashes = 0
  · -- A slash has to be put there.
    have hlast : s.keyPrefix.toList.getLast? ≠ some '/' := by
      intro hlast
      exact (getLast?_keyPrefix_iff s).mp hlast hslashes
    rw [if_neg hlast, keyPrefix_eq, hslashes]
    simp
  · have hmax : max 1 s.slashes = s.slashes := by omega
    rw [if_pos ((getLast?_keyPrefix_iff s).mpr hslashes), keyPrefix_eq, hmax]
    simp

/-- Only the number of slashes can make a difference. -/
theorem replicate_append_inj {m n : Nat} {stem leaf : List Char} :
    stem ++ (List.replicate m '/' ++ leaf) = stem ++ (List.replicate n '/' ++ leaf) ↔ m = n := by
  rw [List.append_cancel_left_eq, List.append_cancel_right_eq]
  constructor
  · intro h
    simpa using congrArg List.length h
  · intro h
    rw [h]

/-- The two parts of the key stand on both sides of the slashes that the first
    part ends with, or of one if it ends with none.  So exactly one stands
    between them if and only if the first part does not end with several, and
    settings whose parts differ in nothing but these slashes watch the same key
    if and only if they have equally many of them, none counted as one. -/
theorem watchedKey_slashes (s : Settings) :
    s.watchedKey.toList = s.stem ++ (List.replicate (max 1 s.slashes) '/' ++ s.leaf) ∧
      (s.watchedKey.toList = s.stem ++ '/' :: s.leaf ↔ s.slashes ≤ 1) ∧
      ∀ t : Settings, t.stem = s.stem → t.leaf = s.leaf →
        (t.watchedKey = s.watchedKey ↔ max 1 t.slashes = max 1 s.slashes) := by
  refine ⟨watchedKey_eq s, ?_, ?_⟩
  · have hone : s.stem ++ '/' :: s.leaf = s.stem ++ (List.replicate 1 '/' ++ s.leaf) := rfl
    rw [watchedKey_eq, hone, replicate_append_inj]
    omega
  · intro t hstem hleaf
    rw [← String.toList_inj, watchedKey_eq, watchedKey_eq, hstem, hleaf, replicate_append_inj]

/-- Whether the first part ends with a slash or not, and whether the second
    begins with slashes or not, the same key is watched. -/
theorem watchedKey_slashes_of_one :
    let s : Settings := { keyPrefix := "/seckill", productKey := "product" }
    let t : Settings := { keyPrefix := "/seckill/", productKey := "//product" }
    t.stem = s.stem ∧ t.leaf = s.leaf ∧ t.watchedKey = s.watchedKey ∧
      s.watchedKey.toList = s.stem ++ '/' :: s.leaf := by
  intro s t
  have hstem : t.stem = s.stem := by decide +kernel
  have hleaf : t.leaf = s.leaf := by decide +kernel
  obtain ⟨-, hone, hsame⟩ := watchedKey_slashes s
  exact ⟨hstem, hleaf, (hsame t hstem hleaf).mpr (by decide +kernel),
    hone.mpr (by decide +kernel)⟩

/-- Two slashes at the end of the first part both stand in the key, which is
    another one than with one slash. -/
theorem watchedKey_keeps_two_slashes :
    let s : Settings := { keyPrefix := "/seckill//", productKey := "product" }
    let t : Settings := { keyPrefix := "/seckill/", productKey := "product" }
    t.stem = s.stem ∧ t.leaf = s.leaf ∧ s.watchedKey = "/seckill//product" ∧
      t.watchedKey = "/seckill/product" ∧ s.watchedKey.toList ≠ s.stem ++ '/' :: s.leaf := by
  decide +kernel

end FlashSale.Settings
