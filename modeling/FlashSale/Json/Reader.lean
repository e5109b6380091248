import FlashSale.Json.Basic

/-! # Reading JSON

    The reader is a machine that takes one byte at a time and keeps the open
    arrays and objects on a stack of its own, so that nesting has no limit and
    reading is a fold over the bytes.  It accepts exactly RFC 8259: no comments,
    no trailing commas, no text after the value, and of all white space only
    space, tab, line feed and carriage return. -/

namespace FlashSale.Json

open Text

namespace Reader

/-! ### Numbers -/

/-- How much of a number has been read. -/
inductive NumberPart where
  | minus
  | zero
  | whole
  | point
  | fraction
  | exponent
  | exponentSign
  | exponentDigits
  deriving Repr, DecidableEq

/-- Is the byte a decimal digit? -/
def isDigit (b : UInt8) : Bool :=
  0x30 ≤ b && b ≤ 0x39

/-- May the number end here? -/
def NumberPart.complete : NumberPart → Bool
  | .zero | .whole | .fraction | .exponentDigits => true
  | .minus | .point | .exponent | .exponentSign => false

/-- The part reached with one more byte of the number, if the byte belongs to
    it. -/
def NumberPart.next? : NumberPart → UInt8 → Option NumberPart
  | .minus, b => if b = 0x30 then some .zero else if isDigit b then some .whole else none
  | .zero, b => if b = 0x2E then some .point
      else if b = 0x65 ∨ b = 0x45 then some .exponent else none
  | .whole, b => if isDigit b then some .whole else if b = 0x2E then some .point
      else if b = 0x65 ∨ b = 0x45 then some .exponent else none
  | .point, b => if isDigit b then some .fraction else none
  | .fraction, b => if isDigit b then some .fraction
      else if b = 0x65 ∨ b = 0x45 then some .exponent else none
  | .exponent, b => if b = 0x2B ∨ b = 0x2D then some .exponentSign
      else if isDigit b then some .exponentDigits else none
  | .exponentSign, b => if isDigit b then some .exponentDigits else none
  | .exponentDigits, b => if isDigit b then some .exponentDigits else none

/-- The part a number starts with. -/
def NumberPart.first? (b : UInt8) : Option NumberPart :=
  if b = 0x2D then some .minus
  else if b = 0x30 then some .zero
  else if isDigit b then some .whole
  else none

/-! ### Strings -/

/-- Where in a string the reader stands: between pieces, after a backslash, or
    among the digits of a `\u` escape. -/
inductive StringPart where
  | plain
  | escape
  | unit (digits : Nat) (value : Nat)
  deriving Repr, DecidableEq

/-- The byte that a one-letter escape stands for. -/
def shortEscape? (b : UInt8) : Option UInt8 :=
  if b = 0x22 ∨ b = 0x5C ∨ b = 0x2F then some b
  else if b = 0x62 then some 0x08
  else if b = 0x66 then some 0x0C
  else if b = 0x6E then some 0x0A
  else if b = 0x72 then some 0x0D
  else if b = 0x74 then some 0x09
  else none

/-- The piece of a `\u` escape.  An ASCII character is the same piece whether
    it is escaped or not. -/
def unitPiece (value : Nat) : Piece :=
  if value < 128 then .byte (UInt8.ofNat value) else .unit (UInt16.ofNat value)

/-- What one byte does inside a string. -/
inductive StringStep where
  | more (part : StringPart) (piece : Option Piece)
  | close
  | refuse
  deriving Repr, DecidableEq

/-- Takes one byte of a string. -/
def StringPart.step : StringPart → UInt8 → StringStep
  | .plain, b =>
    if b = 0x22 then .close
    else if b = 0x5C then .more .escape none
    else if b < 0x20 then .refuse
    else .more .plain (some (.byte b))
  | .escape, b =>
    if b = 0x75 then .more (.unit 0 0) none
    else match shortEscape? b with
      | some byte => .more .plain (some (.byte byte))
      | none => .refuse
  | .unit digits value, b =>
    match hexByteValue? b with
    | none => .refuse
    | some d =>
      let value := 16 * value + d
      if 3 ≤ digits then .more .plain (some (unitPiece value))
      else .more (.unit (digits + 1) value) none

/-! ### The machine -/

/-- An open container.  What has been read of it is kept in reverse. -/
inductive Frame where
  /-- An array, between or before items. -/
  | items (before : List Json)
  /-- An object, between or before members. -/
  | members (before : List (List Piece × Json))
  /-- An object whose next value is being read. -/
  | member (before : List (List Piece × Json)) (name : List Piece)
  deriving Repr

/-- What must come next, or is under way. -/
inductive Mode where
  /-- A value. -/
  | value
  /-- A value or the end of the array just opened. -/
  | firstItem
  /-- A member's name or the end of the object just opened. -/
  | firstName
  /-- A member's name. -/
  | name
  /-- The colon after a name. -/
  | colon
  /-- A comma or the end of the innermost container. -/
  | after
  /-- Nothing but white space. -/
  | done (v : Json)
  /-- The rest of `true`, `false` or `null`. -/
  | literal (left : Bytes) (v : Json)
  /-- A number, its text in reverse. -/
  | number (part : NumberPart) (text : Bytes)
  /-- A string or a name, its pieces in reverse. -/
  | string (isName : Bool) (part : StringPart) (content : List Piece)
  deriving Repr

/-- The state between two bytes. -/
structure State where
  stack : List Frame
  mode : Mode
  deriving Repr

/-- Before the first byte a value is due. -/
def start : State :=
  { stack := [], mode := .value }

/-- Is the byte JSON white space? -/
def isSpace (b : UInt8) : Bool :=
  b == 0x20 || b == 0x0A || b == 0x0D || b == 0x09

/-- Puts a complete value into the innermost container. -/
def complete : List Frame → Json → State
  | .items before :: stack, v => { stack := .items (v :: before) :: stack, mode := .after }
  | .member before name :: stack, v =>
    { stack := .members ((name, v) :: before) :: stack, mode := .after }
  | stack, v => { stack := stack, mode := .done v }

/-- Takes the first byte of a value. -/
def beginValue (stack : List Frame) (b : UInt8) : Option State :=
  if b = 0x5B then some { stack := .items [] :: stack, mode := .firstItem }
  else if b = 0x7B then some { stack := .members [] :: stack, mode := .firstName }
  else if b = 0x22 then some { stack := stack, mode := .string false .plain [] }
  else if b = 0x74 then some { stack := stack, mode := .literal [0x72, 0x75, 0x65] (.bool true) }
  else if b = 0x66 then
    some { stack := stack, mode := .literal [0x61, 0x6C, 0x73, 0x65] (.bool false) }
  else if b = 0x6E then some { stack := stack, mode := .literal [0x75, 0x6C, 0x6C] .null }
  else (NumberPart.first? b).map fun part => { stack := stack, mode := .number part [b] }

/-- Takes a byte that ends the innermost container or goes on with it. -/
def stepAfter (stack : List Frame) (b : UInt8) : Option State :=
  match stack with
  | .items before :: stack =>
    if b = 0x2C then some { stack := .items before :: stack, mode := .value }
    else if b = 0x5D then some (complete stack (.array before.reverse))
    else none
  | .members before :: stack =>
    if b = 0x2C then some { stack := .members before :: stack, mode := .name }
    else if b = 0x7D then some (complete stack (.object before.reverse))
    else none
  | _ => none

/-- Ends a name: the value of its member is due after the colon. -/
def endName : List Frame → List Piece → Option State
  | .members before :: stack, name => some { stack := .member before name :: stack, mode := .colon }
  | _, _ => none

/-- Takes a byte where white space may stand. -/
def stepBetween (s : State) (b : UInt8) : Option State :=
  if isSpace b then some s
  else match s.mode with
    | .value => beginValue s.stack b
    | .firstItem => if b = 0x5D then stepAfter s.stack b else beginValue s.stack b
    | .firstName =>
      if b = 0x7D then stepAfter s.stack b
      else if b = 0x22 then some { s with mode := .string true .plain [] }
      else none
    | .name => if b = 0x22 then some { s with mode := .string true .plain [] } else none
    | .colon => if b = 0x3A then some { s with mode := .value } else none
    | .after => stepAfter s.stack b
    | _ => none

/-- Takes one byte.  A number ends only when a byte comes that does not belong
    to it, and that byte is then taken as one after a value. -/
def step (s : State) (b : UInt8) : Option State :=
  match s.mode with
  | .literal left v =>
    match left with
    | [] => none
    | [last] => if b = last then some (complete s.stack v) else none
    | next :: left => if b = next then some { s with mode := .literal left v } else none
  | .number part text =>
    match part.next? b with
    | some part => some { s with mode := .number part (b :: text) }
    | none =>
      if part.complete then stepBetween (complete s.stack (.number text.reverse)) b else none
  | .string isName part content =>
    match part.step b with
    | .refuse => none
    | .more part piece => some { s with mode := .string isName part (piece.toList ++ content) }
    | .close =>
      if isName then endName s.stack content.reverse
      else some (complete s.stack (.string content.reverse))
  | _ => stepBetween s b

/-- Takes bytes one after the other. -/
def run : State → Bytes → Option State
  | s, [] => some s
  | s, b :: bs => (step s b).bind fun s => run s bs

/-- The value of a state in which the text may end. -/
def finish (s : State) : Option Json :=
  match s.stack, s.mode with
  | [], .done v => some v
  | [], .number part text => if part.complete then some (.number text.reverse) else none
  | _, _ => none

end Reader

/-- Reads one JSON value, and nothing else, from a text. -/
def parse? (text : Bytes) : Option Json :=
  (Reader.run Reader.start text).bind Reader.finish

end FlashSale.Json
