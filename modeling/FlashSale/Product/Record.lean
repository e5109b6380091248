import FlashSale.Json.Decode
import FlashSale.Json.Reader
import FlashSale.Json.Writer
import FlashSale.Product.Basic

/-! # The stored form of a catalogue

    A catalogue is stored as a JSON array of records.  It is read whole or not
    at all: first the text, then record by record, and the first record that is
    no product decides the fault. -/

namespace FlashSale

open Text

namespace Product

/-- A product as it is stored, before it is checked. -/
structure Record where
  productId : Int64
  startTime : Int64
  endTime : Int64
  status : Int64
  count : Int64
  left : Int64
  deriving Repr, DecidableEq

/-- Why a stored catalogue is refused. -/
inductive Fault where
  /-- The text is no array of records. -/
  | unreadable
  | invalidProductId (id : Int64)
  | invalidWindow (id startTime endTime : Int64)
  | negativeCount (id : Int64)
  | unknownStatus (id status : Int64)
  deriving Repr, DecidableEq

/-- The wording of a fault. -/
def Fault.message : Fault → String
  | .unreadable => "malformed product list"
  | .invalidProductId id => "invalid product id " ++ intText id.toInt
  | .invalidWindow id startTime endTime =>
    "product " ++ intText id.toInt ++ ": start time " ++ intText startTime.toInt ++
      " is not before end time " ++ intText endTime.toInt
  | .negativeCount id => "product " ++ intText id.toInt ++ ": negative item count"
  | .unknownStatus id status =>
    "product " ++ intText id.toInt ++ ": unknown status " ++ intText status.toInt

namespace Record

/-- The names of the stored fields.  The two counts may be left out. -/
def shape : Json.Shape :=
  { names := ["ProductId", "StartTime", "EndTime", "Status", "Count", "Left"], atLeast := 4 }

/-- Reads one record. -/
def ofJson? (v : Json) : Option Record := do
  let fields ← Json.fields? shape v
  let productId ← fields.required? "ProductId" Json.int64?
  let startTime ← fields.required? "StartTime" Json.int64?
  let endTime ← fields.required? "EndTime" Json.int64?
  let status ← fields.required? "Status" Json.int64?
  let count ← fields.orDefault? "Count" Json.int64? 0
  let left ← fields.orDefault? "Left" Json.int64? 0
  return { productId, startTime, endTime, status, count, left }

/-- Checks a record: its id, its times, its counts, its status, in this
    order. -/
def toProduct (r : Record) : Except Fault Product :=
  if r.productId ≤ 0 then .error (.invalidProductId r.productId)
  else if r.endTime ≤ r.startTime then
    .error (.invalidWindow r.productId r.startTime r.endTime)
  else if r.count < 0 ∨ r.left < 0 then .error (.negativeCount r.productId)
  else match SaleStatus.ofNumber? r.status with
    | none => .error (.unknownStatus r.productId r.status)
    | some status =>
      .ok { id := r.productId.toUInt64, startTime := r.startTime, endTime := r.endTime,
            status, count := r.count.toUInt64, left := r.left.toUInt64 }

end Record

/-- Reads a stored catalogue. -/
def readList (text : Bytes) : Except Fault (List Product) :=
  match (Json.parse? text).bind (Json.list? Record.ofJson?) with
  | none => .error .unreadable
  | some records => records.mapM Record.toProduct

/-- The stored form of a product, its fields in alphabetical order. -/
def toJson (p : Product) : Json :=
  .ofMembers [
    ("Count", .ofInt p.count.toNat),
    ("EndTime", .ofInt p.endTime.toInt),
    ("Left", .ofInt p.left.toNat),
    ("ProductId", .ofInt p.id.toNat),
    ("StartTime", .ofInt p.startTime.toInt),
    ("Status", .ofInt p.status.number.toInt)]

/-- Writes a catalogue in its stored form. -/
def writeList (products : List Product) : Bytes :=
  (Json.array (products.map toJson)).render

end Product

end FlashSale
