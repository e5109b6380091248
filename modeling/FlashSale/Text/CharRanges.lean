/-! # Ranges of characters

    A property of characters is given by the ranges of code points that have
    it. -/

namespace FlashSale.Text

/-- Does the character lie in one of the ranges?  Both ends of a range belong
    to it. -/
def liesIn (ranges : List (Nat × Nat)) (c : Char) : Bool :=
  ranges.any fun (low, high) => low ≤ c.toNat && c.toNat ≤ high

end FlashSale.Text
