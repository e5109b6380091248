import Mathlib.Algebra.Group.Nat.Defs
import Mathlib.Data.Int.Init

/-! # Counting with machine integers

    Seconds and revisions are 64-bit integers.  Away from the ends of their
    range, one more and one less mean what they mean for integers.  Without a
    sign a number is the same as long as it is not negative. -/

namespace FlashSale

theorem toInt_add_one {a : Int64} (h : a < Int64.maxValue) : (a + 1).toInt = a.toInt + 1 := by
  have hlow := a.le_toInt
  have hhigh : a.toInt < 2 ^ 63 - 1 := Int64.lt_iff_toInt_lt.mp h
  rw [Int64.toInt_add, Int64.toInt_one]
  exact Int.bmod_eq_of_le (by omega) (by omega)

theorem toInt_sub_one {a : Int64} (h : Int64.minValue < a) : (a - 1).toInt = a.toInt - 1 := by
  have hlow : -2 ^ 63 < a.toInt := Int64.lt_iff_toInt_lt.mp h
  have hhigh := a.toInt_lt
  rw [Int64.toInt_sub, Int64.toInt_one]
  exact Int.bmod_eq_of_le (by omega) (by omega)

/-- A number that is not negative keeps its value without a sign. -/
theorem toNat_toUInt64 {n : Int64} (h : 0 ≤ n) :
    (n.toUInt64.toNat : Int) = n.toInt ∧ n.toUInt64.toNat < 2 ^ 63 := by
  have hvalue : (n.toUInt64.toNat : Int) = n.toInt := by
    rw [Int64.toNat_toUInt64_of_le h, Int64.toInt_eq_toNatClampNeg h]
  have hlt := n.toInt_lt
  exact ⟨hvalue, by omega⟩

end FlashSale
