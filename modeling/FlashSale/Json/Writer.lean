import FlashSale.Json.Basic

/-! # Writing JSON

    Values are written without white space.  In a string only the quote, the
    backslash and the control characters below U+0020 are escaped. -/

namespace FlashSale.Json

open Text

/-- The bytes of an ASCII text. -/
def ascii (s : String) : Bytes :=
  s.toList.map fun c => UInt8.ofNat c.toNat

/-- Writes a four-digit escape. -/
def unitEscape (n : Nat) : Bytes :=
  let digit (k : Nat) : UInt8 := UInt8.ofNat (hexDigit (n / k % 16)).toNat
  [0x5C, 0x75, digit 4096, digit 256, digit 16, digit 1]

/-- Writes one byte of a string. -/
def escapeByte (b : UInt8) : Bytes :=
  if b = 0x22 then [0x5C, 0x22]
  else if b = 0x5C then [0x5C, 0x5C]
  else if b = 0x08 then [0x5C, 0x62]
  else if b = 0x09 then [0x5C, 0x74]
  else if b = 0x0A then [0x5C, 0x6E]
  else if b = 0x0C then [0x5C, 0x66]
  else if b = 0x0D then [0x5C, 0x72]
  else if b < 0x20 then unitEscape b.toNat
  else [b]

/-- Writes one piece of a string. -/
def renderPiece : Piece → Bytes
  | .byte b => escapeByte b
  | .unit u => unitEscape u.toNat

/-- Writes a string with its quotes. -/
def renderString (content : List Piece) : Bytes :=
  0x22 :: (content.flatMap renderPiece ++ [0x22])

mutual

/-- Writes a value. -/
def render : Json → Bytes
  | .null => ascii "null"
  | .bool true => ascii "true"
  | .bool false => ascii "false"
  | .number text => text
  | .string content => renderString content
  | .array items => 0x5B :: (renderItems items ++ [0x5D])
  | .object members => 0x7B :: (renderMembers members ++ [0x7D])

/-- Writes items with commas between them. -/
def renderItems : List Json → Bytes
  | [] => []
  | [v] => render v
  | v :: rest => render v ++ 0x2C :: renderItems rest

/-- Writes members with commas between them. -/
def renderMembers : List (List Piece × Json) → Bytes
  | [] => []
  | [(name, v)] => renderString name ++ 0x3A :: render v
  | (name, v) :: rest => renderString name ++ 0x3A :: (render v ++ 0x2C :: renderMembers rest)

end

/-- The text of a value, for one whose strings are text. -/
def renderText (v : Json) : String :=
  String.ofList (utf8DecodeLossy v.render)

end FlashSale.Json
