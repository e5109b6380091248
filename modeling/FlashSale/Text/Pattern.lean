import FlashSale.Text.Alphanumeric
import FlashSale.Text.Pattern.Bracket

/-! # Patterns

    A pattern is a regular expression for valid Unicode text.  Here it is only
    asked whether a text is one.  Patterns are written between braces, so they
    hold no `}`: a brace that is opened inside is never closed, and whatever
    needs a pair of braces is refused.  So is what would need tables of
    character properties: the classes of digits, spaces and word characters,
    word boundaries and letters of either case can be used only where the flag
    `u` is switched off. -/

namespace FlashSale.Text.Pattern

/-! ### Groups -/

/-- What an opening parenthesis begins. -/
inductive Opening where
  | group (flags : Flags)
  | named (name : List Char)
  /-- Flags for the rest of the group around them. -/
  | flags (flags : Flags)
  deriving Repr, DecidableEq

/-- Is this the name of a group? -/
def isGroupName : List Char → Bool
  | [] => false
  | c :: cs =>
    (c == '_' || isAlphabetic c) &&
      cs.all fun c => isAlphanumeric c || ['_', '.', '[', ']'].contains c

/-- Reads the name of a group, up to `>`. -/
def readName? (cs : List Char) : Option (Opening × List Char) :=
  (splitFirst? '>' cs).bind fun (name, rest) =>
    if isGroupName name then some (.named name, rest) else none

/-- Reads flags, up to `:` or `)`. -/
def readFlags? (f : Flags) (cs : List Char) : Option (Opening × List Char) :=
  let items := cs.takeWhile fun c => c != ':' && c != ')'
  if Flags.areListed items then
    match cs.dropWhile fun c => c != ':' && c != ')' with
    | ':' :: rest => some (.group (f.apply items), rest)
    | ')' :: rest => if items.isEmpty then none else some (.flags (f.apply items), rest)
    | _ => none
  else none

/-- Reads what follows an opening parenthesis.  A group cannot look around. -/
def readOpening? (f : Flags) (cs : List Char) : Option (Opening × List Char) :=
  match f.skip cs with
  | '?' :: 'P' :: '<' :: cs => readName? cs
  | '?' :: '<' :: cs => readName? cs
  | '?' :: cs => readFlags? f cs
  | cs => some (.group f, cs)

/-! ### Patterns -/

/-- A group that is open: the flags around it, and what stands before it. -/
structure OpenGroup where
  flags : Flags
  before : Body
  deriving Repr, DecidableEq

/-- Where the reader of a pattern stands. -/
structure State where
  flags : Flags := {}
  body : Body := {}
  outer : List OpenGroup := []
  /-- The names of groups so far. -/
  names : List (List Char) := []
  deriving Repr, DecidableEq

namespace State

/-- Enters a group. -/
def enter (s : State) (flags : Flags) : State :=
  { s with flags, body := {}, outer := { flags := s.flags, before := s.body } :: s.outer }

/-- Enters a group, or sets flags.  Flags take a place among the parts, but
    cannot be repeated. -/
def open? (s : State) : Opening → Option State
  | .group flags => some (s.enter flags)
  | .named name =>
    if s.names.contains name then none
    else some { s.enter s.flags with names := name :: s.names }
  | .flags flags => some { s with flags, body := s.body.add { depth := 0, repeatable := false } }

/-- Goes on after a part that can be repeated. -/
def took (s : State) (depth : Nat) : State :=
  { s with body := s.body.add { depth, repeatable := true } }

/-- Goes on after a part without parts of its own, if it is allowed. -/
def take? (s : State) (isAllowed : Bool) : Option State :=
  if isAllowed then some (s.took 0) else none

/-- Leaves a group. -/
def close? (s : State) : Option State :=
  match s.outer with
  | [] => none
  | group :: outer =>
    some ({ s with flags := group.flags, body := group.before, outer }.took (s.body.depth + 1))

/-- Repeats the last part. -/
def repeatLast? (s : State) : Option State :=
  s.body.repeatLast?.map fun body => { s with body }

/-- Can the pattern end here? -/
def isDone (s : State) : Bool :=
  s.outer.isEmpty && s.body.depth ≤ maxDepth

end State

/-- Passes over the `?` that makes a repetition take as little as it can. -/
def dropLazy : List Char → List Char
  | '?' :: cs => cs
  | cs => cs

/-- Reads one part of a pattern. -/
def readPart? (s : State) : List Char → Option (State × List Char)
  | [] => none
  | c :: cs =>
    let alone (next : Option State) := next.map fun s => (s, cs)
    if c = '(' then
      (readOpening? s.flags cs).bind fun (opening, rest) => (s.open? opening).map (·, rest)
    else if c = ')' then alone s.close?
    else if c = '|' then alone (some { s with body := s.body.branch })
    else if c = '[' then (readBracket? s.flags cs).map fun (depth, rest) => (s.took depth, rest)
    else if c = '*' ∨ c = '+' ∨ c = '?' then s.repeatLast?.map (·, dropLazy cs)
    else if c = '\x7b' then none
    else if c = '\\' then
      (readEscape? s.flags cs).bind fun (escape, rest) =>
        (s.take? (escape.isAllowed s.flags)).map (·, rest)
    else if c = '^' ∨ c = '$' then alone (s.take? true)
    else if c = '.' then alone (s.take? s.flags.unicode)
    else alone (s.take? s.flags.allowLiteral)

/-- Reads parts up to the end of the text, where no group may be open.  Every
    part takes a character, so the length of the text bounds their number. -/
def readParts : Nat → State → List Char → Bool
  | 0, s, cs => (s.flags.skip cs).isEmpty && s.isDone
  | bound + 1, s, cs =>
    match s.flags.skip cs with
    | [] => s.isDone
    | cs =>
      match readPart? s cs with
      | none => false
      | some (s, rest) => readParts bound s rest

end Pattern

/-- Is the text a pattern? -/
def isPattern (cs : List Char) : Bool :=
  Pattern.readParts cs.length {} cs

end FlashSale.Text
