import FlashSale.Text.Pattern.Escape
import FlashSale.Text.Pattern.Nesting
import FlashSale.Text.Split

/-! # The classes of a pattern

    A class stands between brackets.  It holds characters, ranges, classes with
    a name, other classes, and operators between them.  Where a pattern speaks
    of bytes, a class cannot hold a byte beyond ASCII; no complement is
    allowed there, for it would. -/

namespace FlashSale.Text.Pattern

/-! ### Characters and ranges -/

/-- Can the character with this code be in a class? -/
def Flags.allowMember (f : Flags) (code : Nat) : Bool :=
  f.allowLiteral && (f.unicode || code < 0x80)

/-- Reads a character of a class, which stands for itself or is escaped.  The
    first part is its code; there is none for a whole class. -/
def readCharacter? (f : Flags) : List Char → Option (Option Nat × List Char)
  | [] => none
  | '\\' :: cs =>
    match readEscape? f cs with
    | some (.literal code _, rest) => if f.allowMember code then some (some code, rest) else none
    | some (.wordClass complement, rest) =>
      if f.unicode || complement then none else some (none, rest)
    | some (.edge, _) | some (.wordBoundary, _) | none => none
  | c :: cs => if f.allowMember c.toNat then some (some c.toNat, cs) else none

/-- Reads a character or a range of a class.  A hyphen before `]` or before
    another hyphen makes no range. -/
def readMember? (f : Flags) (cs : List Char) : Option (List Char) :=
  (readCharacter? f cs).bind fun (low, rest) =>
    match f.skip rest with
    | '-' :: rest =>
      if f.glance? rest = some ']' ∨ f.glance? rest = some '-' then some ('-' :: rest)
      else
        match low, readCharacter? f (f.skip rest) with
        | some low, some (some high, rest) => if low ≤ high then some rest else none
        | _, _ => none
    | rest => some rest

/-! ### Classes with a name -/

/-- The names of classes. -/
def classNames : List String :=
  ["alnum", "alpha", "ascii", "blank", "cntrl", "digit", "graph", "lower", "print", "punct",
    "space", "upper", "word", "xdigit"]

/-- Reads what follows the bracket of a class with a name, such as `:alpha:]`;
    `^` before the name makes the complement, which the first part tells. -/
def readNamed? : List Char → Option (Bool × List Char)
  | ':' :: cs =>
    let complement := cs.head? == some '^'
    match splitFirst? ':' (if complement then cs.drop 1 else cs) with
    | some (name, ']' :: rest) =>
      if classNames.contains (String.ofList name) then some (complement, rest) else none
    | _ => none
  | _ => none

/-! ### Brackets -/

/-- A class whose end has not been reached. -/
structure OpenClass where
  /-- The depth of what stands before the last operator. -/
  left : Option Nat := none
  members : Row := {}
  /-- Has nothing but hyphens been read?  They stand for themselves then, and so
      does `]` if it comes first of all. -/
  atStart : Bool := true
  deriving Repr, DecidableEq

namespace OpenClass

/-- The class with one member more. -/
def add (c : OpenClass) (depth : Nat) : OpenClass :=
  { c with members := c.members.add depth, atStart := false }

/-- The depth of what the class holds. -/
def contents (c : OpenClass) : Nat :=
  match c.left with
  | none => c.members.depth
  | some left => max left c.members.depth + 1

/-- Goes on after an operator. -/
def operator (c : OpenClass) : OpenClass :=
  { left := some c.contents, atStart := false }

/-- The depth of the class itself. -/
def depth (c : OpenClass) : Nat :=
  c.contents + 1

end OpenClass

/-- Passes over the sign of complement that may follow a bracket. -/
def openClass? (f : Flags) (cs : List Char) : Option (List Char) :=
  match f.skip cs with
  | '^' :: rest => if f.unicode then some rest else none
  | rest => some rest

/-- Reads classes up to the bracket that closes the outermost one, and tells the
    depth of that; `outer` are the classes around the current one.  Every step
    takes a character, so the length of the text bounds the number of steps. -/
def readClass? (f : Flags) :
    Nat → List OpenClass → OpenClass → List Char → Option (Nat × List Char)
  | 0, _, _, _ => none
  | bound + 1, outer, current, cs =>
    let literal (rest : List Char) := readClass? f bound outer (current.add 0) rest
    let operator (rest : List Char) := readClass? f bound outer current.operator rest
    match f.skip cs with
    | [] => none
    | ']' :: rest =>
      if current.atStart && current.members.count == 0 then
        if f.allowLiteral then literal rest else none
      else
        match outer with
        | [] => some (current.depth, rest)
        | enclosing :: outer => readClass? f bound outer (enclosing.add current.depth) rest
    | '[' :: rest =>
      match readNamed? rest with
      | some (complement, rest) =>
        if f.allowLiteral && (f.unicode || !complement) then literal rest else none
      | none => (openClass? f rest).bind (readClass? f bound (current :: outer) {})
    | '-' :: rest =>
      if current.atStart then
        if f.allowLiteral then
          readClass? f bound outer { current with members := current.members.add 0 } rest
        else none
      else if rest.head? = some '-' then operator (rest.drop 1)
      else (readMember? f ('-' :: rest)).bind literal
    | '&' :: '&' :: rest => operator rest
    | '~' :: '~' :: rest => operator rest
    | rest => (readMember? f rest).bind literal

/-- Reads what follows a bracket that opens a class; the first part is the depth
    of the class. -/
def readBracket? (f : Flags) (cs : List Char) : Option (Nat × List Char) :=
  (openClass? f cs).bind (readClass? f (cs.length + 1) [] {})

end FlashSale.Text.Pattern
