import FlashSale.Toml.Lexical
import FlashSale.Toml.Value

/-! # Reading TOML documents

    A document is read line by line into one table.  Reading never looks back;
    the bound on the number of steps comes from the length of the document. -/

namespace FlashSale.Toml

namespace Reader

/-- Reads a key: names with dots between them, the last one apart. -/
def readKey : Nat → List Char → Option ((List String × String) × List Char)
  | 0, _ => none
  | fuel + 1, cs => do
    let (content, cs) ← readName (skipGap cs)
    let name := String.ofList content
    match skipGap cs with
    | '.' :: cs => do
      let ((path, last), cs) ← readKey fuel cs
      return ((name :: path, last), cs)
    | cs => return (([], name), cs)

/-- Reads a number or a truth value. -/
def readWord (cs : List Char) : Option (Value × List Char) :=
  let word := cs.takeWhile isWord
  let rest := cs.dropWhile isWord
  if word = "true".toList then some (.boolean true, rest)
  else if word = "false".toList then some (.boolean false, rest)
  else (integer? word).map fun i => (.integer i, rest)

mutual

/-- Reads a value. -/
def readValue : Nat → List Char → Option (Value × List Char)
  | 0, _ => none
  | fuel + 1, cs =>
    match cs with
    | '[' :: cs => (readItems fuel cs).map fun (items, cs) => (.array items, cs)
    | '\x7b' :: cs =>
      match skipGap cs with
      | '\x7d' :: cs => some (.table .inline [], cs)
      | cs => (readEntries fuel [] cs).map fun (entries, cs) => (.table .inline entries, cs)
    | '"' :: _ | '\'' :: _ =>
      (readString cs).map fun (content, cs) => (.string (String.ofList content), cs)
    | cs => readWord cs

/-- Reads the items of an array up to its end.  A comma may follow the last
    one. -/
def readItems : Nat → List Char → Option (List Value × List Char)
  | 0, _ => none
  | fuel + 1, cs =>
    match skipLines false cs with
    | ']' :: cs => some ([], cs)
    | cs => do
      let (item, cs) ← readValue fuel cs
      match skipLines false cs with
      | ',' :: cs => do
        let (items, cs) ← readItems fuel cs
        return (item :: items, cs)
      | ']' :: cs => return ([item], cs)
      | _ => none

/-- Reads at least one entry of a table in braces, up to its end. -/
def readEntries : Nat → Entries → List Char → Option (Entries × List Char)
  | 0, _, _ => none
  | fuel + 1, entries, cs => do
    let ((path, name), cs) ← readKey fuel cs
    match cs with
    | '=' :: cs => do
      let (value, cs) ← readValue fuel (skipGap cs)
      let entries ← entries.assign? path name value
      match skipGap cs with
      | ',' :: cs => readEntries fuel entries cs
      | '\x7d' :: cs => return (entries, cs)
      | _ => none
    | _ => none

end

/-- The document so far: the table that the last header opened, and all
    entries. -/
structure State where
  current : List String
  entries : Entries
  deriving Repr

/-- Adds an entry to the open table. -/
def State.assign? (s : State) (path : List String) (name : String) (value : Value) :
    Option State := do
  let entries ← s.entries.within .passed (fun _ => true) (Entries.assign? path name value) s.current
  return { s with entries }

/-- Takes a header. -/
def State.openTable? (s : State) (path : List String) (name : String) : Option State := do
  let entries ← s.entries.openTable? path name
  return { current := path ++ [name], entries }

/-- Reads lines up to the end of the document. -/
def readLines : Nat → State → List Char → Option Entries
  | 0, _, _ => none
  | fuel + 1, s, cs =>
    match skipGap cs with
    | [] => some s.entries
    | '[' :: cs => do
      let ((path, name), cs) ← readKey fuel cs
      match cs with
      | ']' :: cs => do
        let cs ← lineEnd? cs
        let s ← s.openTable? path name
        readLines fuel s cs
      | _ => none
    | '#' :: cs => (lineEnd? ('#' :: cs)).bind (readLines fuel s)
    | '\n' :: cs => readLines fuel s cs
    | '\r' :: cs => (newline? ('\r' :: cs)).bind (readLines fuel s)
    | cs => do
      let ((path, name), cs) ← readKey fuel cs
      match cs with
      | '=' :: cs => do
        let (value, cs) ← readValue fuel (skipGap cs)
        let cs ← lineEnd? cs
        let s ← s.assign? path name value
        readLines fuel s cs
      | _ => none

end Reader

/-- Drops the mark that some editors put in front of a text. -/
def dropMark : List Char → List Char
  | '\uFEFF' :: cs => cs
  | cs => cs

/-- Reads a document. -/
def parse? (text : String) : Option Entries :=
  let cs := dropMark text.toList
  Reader.readLines (2 * cs.length + 4) { current := [], entries := [] } cs

end FlashSale.Toml
