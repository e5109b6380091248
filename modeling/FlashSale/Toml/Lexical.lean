import FlashSale.Text.Hex

/-! # The words of TOML

    Line ends, comments, strings and integers.  Each reader takes the
    characters that are left and gives back what it read and what is left
    then. -/

namespace FlashSale.Toml

open Text

/-! ### Between the words -/

/-- May the character stand in a comment or a string as it is?  Control
    characters other than the tab may not. -/
def isPlain (c : Char) : Bool :=
  c == '\t' || (0x20 ≤ c.toNat && c.toNat != 0x7F)

/-- Is the character white space within a line? -/
def isGap (c : Char) : Bool :=
  c == ' ' || c == '\t'

/-- Drops white space within a line. -/
def skipGap (cs : List Char) : List Char :=
  cs.dropWhile isGap

/-- Takes a line end: a line feed, with or without a carriage return. -/
def newline? : List Char → Option (List Char)
  | '\n' :: cs => some cs
  | '\r' :: '\n' :: cs => some cs
  | _ => none

/-- Drops a comment up to the end of its line. -/
def skipComment : List Char → List Char
  | '#' :: cs => cs.dropWhile isPlain
  | cs => cs

/-- Takes what may follow the last word of a line: white space, a comment, and
    the line end or the end of the document. -/
def lineEnd? (cs : List Char) : Option (List Char) :=
  match skipComment (skipGap cs) with
  | [] => some []
  | rest => newline? rest

/-- Drops white space, comments and line ends; `comment` says whether a comment
    is under way. -/
def skipLines (comment : Bool) : List Char → List Char
  | [] => []
  | '\n' :: cs => skipLines false cs
  | '\r' :: '\n' :: cs => skipLines false cs
  | c :: cs =>
    if comment then
      if isPlain c then skipLines true cs else c :: cs
    else if isGap c then skipLines false cs
    else if c = '#' then skipLines true cs
    else c :: cs

/-! ### Strings -/

/-- What has been read of a string is the first part of the result. -/
abbrev Read := Option (List Char × List Char)

/-- Puts a character in front of what was read. -/
def Read.push (c : Char) (r : Read) : Read :=
  r.map fun (content, rest) => (c :: content, rest)

/-- Where in a string the reader stands: between characters, after a backslash,
    among the digits of a code point, or in the white space that a backslash at
    the end of a line takes away. -/
inductive Part where
  | plain
  | escape
  | code (owed : Nat) (value : Nat)
  | fold (lineEnded : Bool)
  deriving Repr, DecidableEq

/-- The character that a one-letter escape stands for. -/
def shortEscape? (c : Char) : Option Char :=
  if c = '"' ∨ c = '\\' then some c
  else if c = 'b' then some '\x08'
  else if c = 't' then some '\t'
  else if c = 'n' then some '\n'
  else if c = 'f' then some '\x0c'
  else if c = 'r' then some '\r'
  else none

/-- The character with a code point; surrogates and numbers above U+10FFFF have
    none. -/
def scalar? (n : Nat) : Option Char :=
  if n.isValidChar then some (Char.ofNat n) else none

/-- How many digits the escape of a code point has. -/
def codeLength? (c : Char) : Option Nat :=
  if c = 'u' then some 4 else if c = 'U' then some 8 else none

/-- The end of a multi-line string, if one starts here: three quotes, or up to
    five, of which the first ones belong to the content. -/
def closing? (quote : Char) (cs : List Char) : Read :=
  let n := min 5 (cs.takeWhile (· == quote)).length
  if n < 3 then none else some (List.replicate (n - 3) quote, cs.drop n)

/-- Reads a string after its opening quote, up to and including the closing
    one. -/
def readBasic : Part → List Char → Read
  | .plain, c :: cs =>
    if c = '"' then some ([], cs)
    else if c = '\\' then readBasic .escape cs
    else if isPlain c then (readBasic .plain cs).push c
    else none
  | .escape, c :: cs =>
    match codeLength? c with
    | some owed => readBasic (.code owed 0) cs
    | none =>
      match shortEscape? c with
      | some e => (readBasic .plain cs).push e
      | none => none
  | .code owed value, c :: cs =>
    match hexValue? c with
    | none => none
    | some d =>
      if 1 < owed then readBasic (.code (owed - 1) (16 * value + d)) cs
      else match scalar? (16 * value + d) with
        | some e => (readBasic .plain cs).push e
        | none => none
  | _, _ => none

/-- Reads a multi-line string after its three opening quotes.  A line end is
    kept as a line feed. -/
def readMultiline : Part → List Char → Read
  | .plain, '\r' :: '\n' :: cs => (readMultiline .plain cs).push '\n'
  | .plain, c :: cs =>
    match closing? '"' (c :: cs) with
    | some r => some r
    | none =>
      if c = '\\' then readMultiline .escape cs
      else if c = '\n' || isPlain c then (readMultiline .plain cs).push c
      else none
  | .escape, '\r' :: '\n' :: cs => readMultiline (.fold true) cs
  | .escape, c :: cs =>
    if c = '\n' then readMultiline (.fold true) cs
    else if isGap c then readMultiline (.fold false) cs
    else match codeLength? c with
      | some owed => readMultiline (.code owed 0) cs
      | none =>
        match shortEscape? c with
        | some e => (readMultiline .plain cs).push e
        | none => none
  | .code owed value, c :: cs =>
    match hexValue? c with
    | none => none
    | some d =>
      if 1 < owed then readMultiline (.code (owed - 1) (16 * value + d)) cs
      else match scalar? (16 * value + d) with
        | some e => (readMultiline .plain cs).push e
        | none => none
  | .fold _, '\r' :: '\n' :: cs => readMultiline (.fold true) cs
  | .fold lineEnded, c :: cs =>
    if c = '\n' then readMultiline (.fold true) cs
    else if isGap c then readMultiline (.fold lineEnded) cs
    else if !lineEnded then none
    else match closing? '"' (c :: cs) with
      | some r => some r
      | none =>
        if c = '\\' then readMultiline .escape cs
        else if isPlain c then (readMultiline .plain cs).push c
        else none
  | _, [] => none

/-- Reads a literal string after its opening quote. -/
def readLiteral : List Char → Read
  | [] => none
  | c :: cs =>
    if c = '\'' then some ([], cs)
    else if isPlain c then (readLiteral cs).push c
    else none

/-- Reads a multi-line literal string after its three opening quotes. -/
def readMultilineLiteral : List Char → Read
  | [] => none
  | '\r' :: '\n' :: cs => (readMultilineLiteral cs).push '\n'
  | c :: cs =>
    match closing? '\'' (c :: cs) with
    | some r => some r
    | none =>
      if c = '\n' || isPlain c then (readMultilineLiteral cs).push c else none

/-- Drops the line end that may follow three opening quotes. -/
def dropFirstLineEnd (cs : List Char) : List Char :=
  (newline? cs).getD cs

/-- Reads a string of any kind from its opening quote on. -/
def readString : List Char → Read
  | '"' :: '"' :: '"' :: cs => readMultiline .plain (dropFirstLineEnd cs)
  | '"' :: cs => readBasic .plain cs
  | '\'' :: '\'' :: '\'' :: cs => readMultilineLiteral (dropFirstLineEnd cs)
  | '\'' :: cs => readLiteral cs
  | _ => none

/-! ### Names -/

/-- May the character stand in a name without quotes? -/
def isBare (c : Char) : Bool :=
  c.isAlphanum || c == '_' || c == '-'

/-- Reads one name, bare or in quotes. -/
def readName : List Char → Read
  | '"' :: cs => readBasic .plain cs
  | '\'' :: cs => readLiteral cs
  | cs =>
    match cs.takeWhile isBare with
    | [] => none
    | name => some (name, cs.dropWhile isBare)

/-! ### Integers and truth values -/

/-- The value of a digit below `base`. -/
def digitBelow? (base : Nat) (c : Char) : Option Nat :=
  (hexValue? c).bind fun d => if d < base then some d else none

/-- The value of digits in a base. -/
def digitsIn? (base : Nat) (cs : List Char) : Option Nat :=
  cs.foldlM (fun n c => (digitBelow? base c).map (base * n + ·)) 0

/-- Takes out the underscores between digits; there is a digit on both sides of
    each. -/
def ungroup? (cs : List Char) : Option (List Char) :=
  let groups := cs.splitOn '_'
  if groups.any List.isEmpty then none else some groups.flatten

/-- The value of a decimal number without sign and without leading zeros. -/
def decimal? (cs : List Char) : Option Nat := do
  let ds ← ungroup? cs
  if ds.head? = some '0' ∧ ds ≠ ['0'] then none else digitsIn? 10 ds

/-- The value of a number in another base. -/
def inBase? (base : Nat) (cs : List Char) : Option Nat :=
  (ungroup? cs).bind (digitsIn? base)

/-- The value of an integer, if it has 64 bits. -/
def integer? (word : List Char) : Option Int64 := do
  let i : Int ← match word with
    | '0' :: 'x' :: cs => (inBase? 16 cs).map Int.ofNat
    | '0' :: 'o' :: cs => (inBase? 8 cs).map Int.ofNat
    | '0' :: 'b' :: cs => (inBase? 2 cs).map Int.ofNat
    | '-' :: cs => (decimal? cs).map fun n => -(n : Int)
    | '+' :: cs => (decimal? cs).map Int.ofNat
    | cs => (decimal? cs).map Int.ofNat
  if Int64.minValue.toInt ≤ i ∧ i ≤ Int64.maxValue.toInt then some (Int64.ofInt i) else none

/-- May the character belong to a number or a truth value? -/
def isWord (c : Char) : Bool :=
  c.isAlphanum || c == '_' || c == '+' || c == '-'

end FlashSale.Toml
