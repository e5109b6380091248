import FlashSale.Json.Basic

/-! # Typed reading of JSON values

    Each function takes a value as data of one type and refuses every other
    value; nothing is converted.  A record may be given as an object or as an
    array of its fields in their order. -/

namespace FlashSale.Json

open Text

/-- An integer within a range. -/
def intBetween? (low high : Int) : Json → Option Int
  | .number text => (integer? text).bind fun i => if low ≤ i ∧ i ≤ high then some i else none
  | _ => none

/-- A 64-bit integer with sign. -/
def int64? (v : Json) : Option Int64 :=
  (intBetween? Int64.minValue.toInt Int64.maxValue.toInt v).map Int64.ofInt

/-- A 64-bit integer without sign. -/
def uint64? (v : Json) : Option UInt64 :=
  (intBetween? 0 (UInt64.size - 1) v).map fun i => UInt64.ofNat i.toNat

/-- A 32-bit integer without sign. -/
def uint32? (v : Json) : Option UInt32 :=
  (intBetween? 0 (UInt32.size - 1) v).map fun i => UInt32.ofNat i.toNat

/-- A truth value. -/
def bool? : Json → Option Bool
  | .bool b => some b
  | _ => none

/-- A string that is text. -/
def string? : Json → Option String
  | .string content => pieceText? content
  | _ => none

/-- A list whose items are all readable. -/
def list? {α : Type} (item? : Json → Option α) : Json → Option (List α)
  | .array items => items.mapM item?
  | _ => none

/-- A value or `null`. -/
def nullable? {α : Type} (value? : Json → Option α) : Json → Option (Option α)
  | .null => some none
  | v => (value? v).map some

/-! ### Records -/

/-- The shape of a record: the names of its fields in order, and how many of
    them an array must give at least. -/
structure Shape where
  names : List String
  atLeast : Nat
  deriving Repr, DecidableEq

/-- The fields of a record that were given. -/
abbrev Fields := List (String × Json)

/-- The known fields among some members.  Every name must be text and a known
    one may stand only once; other members are passed over. -/
def knownFields? (names : List String) : List (List Piece × Json) → Option Fields
  | [] => some []
  | (content, value) :: rest => do
    let name ← pieceText? content
    let fields ← knownFields? names rest
    if name ∈ names then
      if (fields.lookup name).isSome then none else return (name, value) :: fields
    else return fields

/-- The fields of a record. -/
def fields? (shape : Shape) : Json → Option Fields
  | .object members => knownFields? shape.names members
  | .array items =>
    if shape.atLeast ≤ items.length ∧ items.length ≤ shape.names.length then
      some (shape.names.zip items)
    else none
  | _ => none

namespace Fields

/-- A field that must be given. -/
def required? {α : Type} (fields : Fields) (name : String) (value? : Json → Option α) : Option α :=
  (fields.lookup name).bind value?

/-- A field that has a default. -/
def orDefault? {α : Type} (fields : Fields) (name : String) (value? : Json → Option α)
    (default : α) : Option α :=
  match fields.lookup name with
  | none => some default
  | some v => value? v

end Fields

end FlashSale.Json
