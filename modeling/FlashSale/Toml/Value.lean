/-! # TOML values and tables

    A document is a table.  Where a table came from decides who may still add
    to it: a table written in braces is closed, one that arose from a dotted
    key is open to further dotted keys, and one that a header only passed
    through may get its own header later.

    Only kinds of values that some setting has are kept.  Numbers with a
    fraction, dates and arrays of tables are refused by the reader. -/

namespace FlashSale.Toml

/-- Where a table came from. -/
inductive Origin where
  /-- Written in braces. -/
  | inline
  /-- Named on the way of a dotted key. -/
  | dotted
  /-- Named on the way of a header. -/
  | passed
  /-- Opened by a header of its own. -/
  | header
  deriving Repr, DecidableEq

/-- A value.  The names in a table are distinct. -/
inductive Value where
  | string (s : String)
  | integer (i : Int64)
  | boolean (b : Bool)
  | array (items : List Value)
  | table (origin : Origin) (entries : List (String × Value))
  deriving Repr

/-- The entries of a table, in the order of their first mention. -/
abbrev Entries := List (String × Value)

namespace Entries

/-- Gives a name a value, in its place if the name is there already. -/
def set (name : String) (value : Value) : Entries → Entries
  | [] => [(name, value)]
  | (other, old) :: rest =>
    if other = name then (name, value) :: rest else (other, old) :: set name value rest

/-- Changes the table at the end of a path.  Tables that are missing arise with
    `origin`; of those that are there only the ones that `mayPass` accepts can
    be entered. -/
def within (origin : Origin) (mayPass : Origin → Bool) (change : Entries → Option Entries) :
    List String → Entries → Option Entries
  | [], entries => change entries
  | name :: path, entries =>
    match entries.lookup name with
    | none => do
      let inner ← within origin mayPass change path []
      return entries.set name (.table origin inner)
    | some (.table there inner) =>
      if mayPass there then do
        let inner ← within origin mayPass change path inner
        return entries.set name (.table there inner)
      else none
    | some _ => none

/-- Adds an entry under a name that is not taken. -/
def add? (name : String) (value : Value) (entries : Entries) : Option Entries :=
  if (entries.lookup name).isSome then none else some (entries.set name value)

/-- Adds an entry under a dotted key. -/
def assign? (path : List String) (name : String) (value : Value) (entries : Entries) :
    Option Entries :=
  entries.within .dotted (· == .dotted) (add? name value) path

/-- Opens the table of a header for the entries that follow. -/
def openTable? (path : List String) (name : String) (entries : Entries) : Option Entries :=
  entries.within .passed (· != .inline) (fun inner =>
    match inner.lookup name with
    | none => some (inner.set name (.table .header []))
    | some (.table .passed old) => some (inner.set name (.table .header old))
    | some _ => none) path

end Entries

end FlashSale.Toml
