import FlashSale.Text.Decimal
import FlashSale.Text.Utf8

/-! # JSON documents

    A document is kept as it was written, apart from white space: a number is
    its text, and a string is its content piece by piece.  Whether a string is
    text at all, or a number an integer, is asked only by those who want to
    know; a document nobody looks into needs neither. -/

namespace FlashSale

open Text

/-- One piece of a string: a byte that stands for itself (or for a short
    escape), or a UTF-16 unit from 128 on that was written as an escape. -/
inductive Json.Piece where
  | byte (b : UInt8)
  | unit (u : UInt16)
  deriving Repr, DecidableEq

/-- A JSON value.  Members keep their order, and names may repeat. -/
inductive Json where
  | null
  | bool (b : Bool)
  | number (text : Bytes)
  | string (content : List Json.Piece)
  | array (items : List Json)
  | object (members : List (List Json.Piece × Json))
  deriving Repr

namespace Json

/-! ### Strings as text -/

/-- Is the unit the first half of a surrogate pair? -/
def isHighSurrogate (u : UInt16) : Bool :=
  0xD800 ≤ u && u < 0xDC00

/-- Is the unit the second half of a surrogate pair? -/
def isLowSurrogate (u : UInt16) : Bool :=
  0xDC00 ≤ u && u < 0xE000

/-- The character of a surrogate pair. -/
def pairChar (high low : UInt16) : Char :=
  Char.ofNat (0x10000 + (high.toNat - 0xD800) * 1024 + (low.toNat - 0xDC00))

/-- The bytes of a string; a surrogate that is not in a pair has none. -/
def pieceBytes? : List Piece → Option Bytes
  | [] => some []
  | .byte b :: rest => (pieceBytes? rest).map (b :: ·)
  | .unit high :: rest =>
    if isHighSurrogate high then
      match rest with
      | .unit low :: rest =>
        if isLowSurrogate low then
          (pieceBytes? rest).map (String.utf8EncodeChar (pairChar high low) ++ ·)
        else none
      | _ => none
    else if isLowSurrogate high then none
    else (pieceBytes? rest).map (String.utf8EncodeChar (Char.ofNat high.toNat) ++ ·)

/-- The text of a string whose pieces are well-formed UTF-8 and UTF-16. -/
def pieceText? (content : List Piece) : Option String :=
  (pieceBytes? content).bind stringOf?

/-- The pieces of a text. -/
def piecesOf (s : String) : List Piece :=
  (bytesOf s).map .byte

/-! ### Numbers as integers -/

/-- The value of a text of digits only. -/
def digitsValue? : Bytes → Option Nat
  | [] => none
  | ds => ds.foldlM (fun n b => (digit? (Char.ofNat b.toNat)).map (10 * n + ·)) 0

/-- The integer that a number's text writes: digits, after an optional `-`.
    A fraction or an exponent is no integer, and neither is `-0`. -/
def integer? : Bytes → Option Int
  | 0x2D :: ds => (digitsValue? ds).bind fun n => if n = 0 then none else some (-(n : Int))
  | ds => (digitsValue? ds).map Int.ofNat

/-! ### Values built from data -/

/-- A string value. -/
def ofString (s : String) : Json :=
  .string (piecesOf s)

/-- A number value. -/
def ofInt (i : Int) : Json :=
  .number ((decimalInt i).map fun c => UInt8.ofNat c.toNat)

/-- An object with the given names. -/
def ofMembers (members : List (String × Json)) : Json :=
  .object (members.map fun (name, value) => (piecesOf name, value))

end Json

end FlashSale
