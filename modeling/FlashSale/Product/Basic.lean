/-! # Products

    One row of the catalogue of a flash sale. -/

namespace FlashSale

/-- What the operators say about the sale of a product, whatever the time. -/
inductive SaleStatus where
  | normal
  | soldOut
  | forceSoldOut
  deriving Repr, DecidableEq

namespace SaleStatus

/-- The number by which a status is stored. -/
def number : SaleStatus → Int64
  | .normal => 0
  | .soldOut => 1
  | .forceSoldOut => 2

/-- The status stored as a number. -/
def ofNumber? (n : Int64) : Option SaleStatus :=
  if n = 0 then some .normal
  else if n = 1 then some .soldOut
  else if n = 2 then some .forceSoldOut
  else none

/-- Is nothing left to sell? -/
def isSoldOut : SaleStatus → Bool
  | .normal => false
  | .soldOut | .forceSoldOut => true

end SaleStatus

/-- A product on sale during the seconds from `startTime` to `endTime`. -/
structure Product where
  id : UInt64
  startTime : Int64
  endTime : Int64
  status : SaleStatus
  /-- How many items the sale began with; not used to admit anybody. -/
  count : UInt64
  /-- How many items are left; not used to admit anybody. -/
  left : UInt64
  deriving Repr, DecidableEq

end FlashSale
