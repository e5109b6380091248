import FlashSale.Json.Reader
import FlashSale.Json.Writer
import Mathlib.Data.List.Basic

/-! # How a JSON value may be written

    The grammar of RFC 8259 over bytes.  One value has many texts: white space
    may stand around values and names, and a piece of a string may be written
    by itself or as an escape.  A string need not be well-formed UTF-8; that is
    asked of it only by those who want its text. -/

namespace FlashSale.Json

open Text

/-! ### White space -/

/-- Nothing but space, tab, line feed and carriage return. -/
def IsSpace (ws : Bytes) : Prop :=
  ∀ b ∈ ws, b = 0x20 ∨ b = 0x09 ∨ b = 0x0A ∨ b = 0x0D

instance (ws : Bytes) : Decidable (IsSpace ws) :=
  List.decidableBAll _ ws

theorem isSpace_nil : IsSpace [] :=
  fun _ h => absurd h List.not_mem_nil

/-! ### Numbers -/

/-- Nothing but decimal digits. -/
def AllDigits (ds : Bytes) : Prop :=
  ∀ b ∈ ds, 0x30 ≤ b ∧ b ≤ 0x39

/-- The digits before the point: none in front of which is a zero. -/
inductive IsWhole : Bytes → Prop
  | zero : IsWhole [0x30]
  | digits {d : UInt8} {ds : Bytes} (first : 0x31 ≤ d ∧ d ≤ 0x39) (others : AllDigits ds) :
    IsWhole (d :: ds)

/-- A point with digits after it, or nothing. -/
inductive IsFraction : Bytes → Prop
  | none : IsFraction []
  | digits {ds : Bytes} (nonempty : ds ≠ []) (digits : AllDigits ds) : IsFraction (0x2E :: ds)

/-- The letter E with a sign or none and digits after it, or nothing. -/
inductive IsExponent : Bytes → Prop
  | none : IsExponent []
  | digits {e : UInt8} {sign ds : Bytes} (letter : e = 0x65 ∨ e = 0x45)
    (signed : sign = [] ∨ sign = [0x2B] ∨ sign = [0x2D]) (nonempty : ds ≠ [])
    (digits : AllDigits ds) : IsExponent (e :: (sign ++ ds))

/-- The text of a number. -/
inductive IsNumber : Bytes → Prop
  | mk {sign whole fraction exponent : Bytes} (signed : sign = [] ∨ sign = [0x2D])
    (isWhole : IsWhole whole) (isFraction : IsFraction fraction)
    (isExponent : IsExponent exponent) : IsNumber (sign ++ (whole ++ (fraction ++ exponent)))

/-! ### Strings -/

/-- The letters after a backslash, with the bytes that they stand for. -/
def shortEscapes : List (UInt8 × UInt8) :=
  [(0x22, 0x22), (0x5C, 0x5C), (0x2F, 0x2F), (0x62, 0x08), (0x66, 0x0C), (0x6E, 0x0A),
    (0x72, 0x0D), (0x74, 0x09)]

/-- How a piece of a string may be written. -/
inductive Piece.WrittenAs : Piece → Bytes → Prop
  /-- A byte by itself, if it is no control character, quote or backslash. -/
  | plain {b : UInt8} (printed : 0x20 ≤ b) (quote : b ≠ 0x22) (backslash : b ≠ 0x5C) :
    Piece.WrittenAs (.byte b) [b]
  /-- A byte by a letter after a backslash. -/
  | short {letter b : UInt8} (escape : (letter, b) ∈ shortEscapes) :
    Piece.WrittenAs (.byte b) [0x5C, letter]
  /-- A UTF-16 unit by four digits of either case; below 128 it is a byte. -/
  | unit {a b c d : UInt8} {p q r s : Nat} (first : hexByteValue? a = some p)
    (second : hexByteValue? b = some q) (third : hexByteValue? c = some r)
    (fourth : hexByteValue? d = some s) :
    Piece.WrittenAs (Reader.unitPiece (16 * (16 * (16 * p + q) + r) + s))
      [0x5C, 0x75, a, b, c, d]

/-- How the pieces of a string may be written between its quotes. -/
inductive PiecesWrittenAs : List Piece → Bytes → Prop
  | nil : PiecesWrittenAs [] []
  | cons {piece : Piece} {pieces : List Piece} {text rest : Bytes} (first : piece.WrittenAs text)
    (others : PiecesWrittenAs pieces rest) : PiecesWrittenAs (piece :: pieces) (text ++ rest)

/-! ### Values -/

mutual

/-- How a value may be written, without white space around it. -/
inductive WrittenAs : Json → Bytes → Prop
  | null : WrittenAs .null (ascii "null")
  | true : WrittenAs (.bool true) (ascii "true")
  | false : WrittenAs (.bool false) (ascii "false")
  | number {text : Bytes} (isNumber : IsNumber text) : WrittenAs (.number text) text
  | string {content : List Piece} {text : Bytes} (pieces : PiecesWrittenAs content text) :
    WrittenAs (.string content) (0x22 :: (text ++ [0x22]))
  | emptyArray {ws : Bytes} (space : IsSpace ws) : WrittenAs (.array []) (0x5B :: (ws ++ [0x5D]))
  | array {items : List Json} {text : Bytes} (written : ItemsWrittenAs items text) :
    WrittenAs (.array items) (0x5B :: (text ++ [0x5D]))
  | emptyObject {ws : Bytes} (space : IsSpace ws) :
    WrittenAs (.object []) (0x7B :: (ws ++ [0x7D]))
  | object {members : List (List Piece × Json)} {text : Bytes}
    (written : MembersWrittenAs members text) : WrittenAs (.object members) (0x7B :: (text ++ [0x7D]))

/-- How a value may be written with white space around it. -/
inductive PaddedAs : Json → Bytes → Prop
  | mk {v : Json} {before text after : Bytes} (spaceBefore : IsSpace before)
    (value : WrittenAs v text) (spaceAfter : IsSpace after) : PaddedAs v (before ++ (text ++ after))

/-- How items may be written, at least one, with commas between them. -/
inductive ItemsWrittenAs : List Json → Bytes → Prop
  | one {v : Json} {text : Bytes} (item : PaddedAs v text) : ItemsWrittenAs [v] text
  | more {v : Json} {items : List Json} {text rest : Bytes} (item : PaddedAs v text)
    (others : ItemsWrittenAs items rest) : ItemsWrittenAs (v :: items) (text ++ 0x2C :: rest)

/-- How a member may be written: its name, a colon and its value. -/
inductive MemberWrittenAs : List Piece × Json → Bytes → Prop
  | mk {content : List Piece} {v : Json} {before name between value : Bytes}
    (spaceBefore : IsSpace before) (pieces : PiecesWrittenAs content name)
    (spaceBetween : IsSpace between) (padded : PaddedAs v value) :
    MemberWrittenAs (content, v)
      (before ++ 0x22 :: (name ++ 0x22 :: (between ++ 0x3A :: value)))

/-- How members may be written, at least one, with commas between them. -/
inductive MembersWrittenAs : List (List Piece × Json) → Bytes → Prop
  | one {m : List Piece × Json} {text : Bytes} (member : MemberWrittenAs m text) :
    MembersWrittenAs [m] text
  | more {m : List Piece × Json} {members : List (List Piece × Json)} {text rest : Bytes}
    (member : MemberWrittenAs m text) (others : MembersWrittenAs members rest) :
    MembersWrittenAs (m :: members) (text ++ 0x2C :: rest)

end

end FlashSale.Json
