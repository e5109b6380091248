import FlashSale.Text.Hex
import FlashSale.Text.Pattern.Flags

/-! # The escapes of a pattern

    A backslash takes the meaning from a sign, or gives one to a letter. -/

namespace FlashSale.Text.Pattern

/-- What follows a backslash. -/
inductive Escape where
  /-- A character; `byte` tells that it is given by two digits. -/
  | literal (code : Nat) (byte : Bool)
  /-- Digits, spaces or word characters, or their complement. -/
  | wordClass (complement : Bool)
  /-- The start or the end of the text. -/
  | edge
  | wordBoundary
  deriving Repr, DecidableEq

/-- The number of digits that follow a letter for a character code. -/
def codeLength? (c : Char) : Option Nat :=
  if c = 'x' then some 2 else if c = 'u' then some 4 else if c = 'U' then some 8 else none

/-- Reads hexadecimal digits, so many of them; `code` is the value of those
    before them. -/
def readDigits? (f : Flags) : Nat → Nat → List Char → Option (Nat × List Char)
  | 0, code, cs => some (code, cs)
  | length + 1, code, cs =>
    match f.skip cs with
    | [] => none
    | c :: cs => (hexValue? c).bind fun digit => readDigits? f length (16 * code + digit) cs

/-- Reads the code of a character in a given number of digits. -/
def readCode? (f : Flags) (length : Nat) (cs : List Char) : Option (Escape × List Char) :=
  (readDigits? f length 0 cs).bind fun (code, rest) =>
    if code.isValidChar then some (.literal code (length == 2), rest) else none

/-- The code of a character that has a letter of its own. -/
def namedCode? (c : Char) : Option Nat :=
  [('a', 7), ('f', 12), ('t', 9), ('n', 10), ('r', 13), ('v', 11)].lookup c

/-- Reads what follows a backslash.  Only signs of ASCII may be escaped for no
    reason. -/
def readEscape? (f : Flags) : List Char → Option (Escape × List Char)
  | [] => none
  | c :: cs =>
    match codeLength? c with
    | some length => readCode? f length cs
    | none =>
      if ['d', 's', 'w'].contains c then some (.wordClass false, cs)
      else if ['D', 'S', 'W'].contains c then some (.wordClass true, cs)
      else if ['A', 'z'].contains c then some (.edge, cs)
      else if ['b', 'B', '<', '>'].contains c then some (.wordBoundary, cs)
      else
        match namedCode? c with
        | some code => some (.literal code false, cs)
        | none =>
          if c.toNat < 0x80 && !c.isAlphanum then some (.literal c.toNat false, cs) else none

/-- May the escape stand outside of a class? -/
def Escape.isAllowed (f : Flags) : Escape → Bool
  | .literal code byte => f.allowLiteral && (f.unicode || !byte || code < 0x80)
  | .wordClass complement => !f.unicode && !complement
  | .edge => true
  | .wordBoundary => !f.unicode

end FlashSale.Text.Pattern
