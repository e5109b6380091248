import FlashSale.Text.Percent
import FlashSale.Text.Split
import FlashSale.Text.Utf8

/-! # Query strings

    A query is a list of pairs.  Every escape in it has to be whole; then the
    pieces between `&` are split at their first `=`, and each side is decoded
    once. -/

namespace FlashSale.Http

open Text

/-- The text of one side of a pair: `+` is a space, escapes are bytes, and bytes
    that are no UTF-8 are read as U+FFFD. -/
def decodeComponent (bs : Bytes) : String :=
  String.ofList (utf8DecodeLossy (Percent.decode (bs.map fun b => if b = 0x2B then 0x20 else b)))

/-- Reads one piece of a query. -/
def decodePair (piece : Bytes) : String × String :=
  let (name, value) := splitFirst 0x3D piece
  (decodeComponent name, decodeComponent value)

/-- Reads a query whose escapes are whole.  Empty pieces say nothing. -/
def decodePairs (query : Bytes) : List (String × String) :=
  ((query.splitOn 0x26).filter fun piece => !piece.isEmpty).map decodePair

/-- Reads a query, or tells the position of the first broken escape. -/
def decodeQuery (query : Bytes) : Except Nat (List (String × String)) :=
  match Percent.broken? query with
  | some position => .error position
  | none => .ok (decodePairs query)

end FlashSale.Http
