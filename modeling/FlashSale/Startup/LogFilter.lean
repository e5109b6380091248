import FlashSale.Text.Blank
import FlashSale.Text.Decimal
import FlashSale.Text.Pattern

/-! # Log filters

    A filter decides which log lines are written.  It is a list of directives,
    each of which sets a level for the lines of some targets; of those that
    concern a line, the most special one counts.  Directives about spans are
    read, but there are no spans here for them to select. -/

namespace FlashSale

open Text

/-- How much is logged, or how important a line is. -/
inductive LogLevel where
  | off
  | error
  | warn
  | info
  | debug
  | trace
  deriving Repr, DecidableEq

namespace LogLevel

/-- The rank of a level; a line is written if its rank is not above that of the
    filter. -/
def rank : LogLevel → Nat
  | .off => 0
  | .error => 1
  | .warn => 2
  | .info => 3
  | .debug => 4
  | .trace => 5

/-- Every level with its name. -/
def named : List (String × LogLevel) :=
  [("off", .off), ("error", .error), ("warn", .warn), ("info", .info), ("debug", .debug),
    ("trace", .trace)]

/-- The level with a rank. -/
def ofRank? (n : Nat) : Option LogLevel :=
  (named.map Prod.snd).find? fun level => level.rank == n

/-- Reads a level: its rank, or its name in any case.  Nothing at all means
    errors. -/
def parse? (cs : List Char) : Option LogLevel :=
  match readUInt64 cs with
  | .ok n => ofRank? n.toNat
  | .error _ =>
    if cs.isEmpty then some .error
    else named.lookup (String.ofList (cs.map Char.toLower))

end LogLevel

/-- Why a filter cannot be read. -/
inductive LogFilterFault where
  /-- A directive does not have its form. -/
  | malformed
  /-- A word begins or ends within a character, so there is no text of it. -/
  | torn
  deriving Repr, DecidableEq

/-- One part of a filter. -/
structure LogDirective where
  level : LogLevel
  target : Option String
  /-- Is it about lines within a span only? -/
  inSpan : Bool
  /-- The fields that a line must have. -/
  fields : List String
  deriving Repr, DecidableEq

namespace LogDirective

/-- Where in a directive the reader stands; the words that are being read are
    known by the position at which they start.  Positions count the bytes of the
    text in UTF-8. -/
inductive Part where
  | start
  | levelOrTarget (start : Nat)
  | span (start : Nat)
  | field (start : Nat)
  | fieldsDone
  | target
  | level (start : Nat)
  deriving Repr, DecidableEq

/-- A directive in the middle of being read. -/
structure State where
  part : Part := .start
  directive : LogDirective := { level := .trace, target := none, inSpan := false, fields := [] }
  deriving Repr, DecidableEq

/-- Starts a word with a letter, a number or one of three signs. -/
def startsWord (c : Char) : Bool :=
  isAlphanumeric c || c == '-' || c == ':' || c == '_'

/-- The characters before a position and those from it on; there are none if the
    position lies within a character or beyond the end. -/
def cut? : Nat → List Char → Option (List Char × List Char)
  | 0, cs => some ([], cs)
  | _ + 1, [] => none
  | n + 1, c :: cs =>
    if n + 1 < c.utf8Size then none
    else (cut? (n + 1 - c.utf8Size) cs).map fun (before, after) => (c :: before, after)

/-- The characters of `text` from one position on. -/
def sliceFrom (text : List Char) (start : Nat) : Except LogFilterFault (List Char) :=
  match cut? start text with
  | some (_, after) => .ok after
  | none => .error .torn

/-- The characters of `text` from one position up to another. -/
def slice (text : List Char) (start stop : Nat) : Except LogFilterFault (List Char) :=
  match sliceFrom text start with
  | .error fault => .error fault
  | .ok rest =>
    match cut? (stop - start) rest with
    | some (before, _) => .ok before
    | none => .error .torn

/-- Is the text a number with or without a fraction and an exponent, or the name
    of one that is not finite? -/
def isNumber (cs : List Char) : Bool :=
  let unsigned := match cs with
    | '+' :: rest | '-' :: rest => rest
    | _ => cs
  let areDigits (cs : List Char) := !cs.isEmpty && cs.all Char.isDigit
  let (number, exponent?) := match splitFirst? 'e' (unsigned.map Char.toLower) with
    | some (number, exponent) => (number, some exponent)
    | none => (unsigned, none)
  let (whole, fraction) := splitFirst '.' number
  let isExponent : List Char → Bool
    | '+' :: rest | '-' :: rest => areDigits rest
    | rest => areDigits rest
  ["inf", "infinity", "nan"].contains (String.ofList (unsigned.map Char.toLower)) ||
    (areDigits (whole ++ fraction) && exponent?.all isExponent)

/-- Can a field be compared with this text?  It can as a number or as a
    pattern. -/
def isComparable (cs : List Char) : Bool :=
  isNumber cs || isPattern cs

/-- Adds a field, which may come with a value.  A field with a value belongs to
    a span. -/
def addField (d : LogDirective) (word : List Char) : Except LogFilterFault LogDirective :=
  if word.isEmpty then .error .malformed
  else
    match splitFirst? '=' word with
    | some (_, values) =>
      if isComparable (splitFirst '=' values).1 then .ok { d with inSpan := true }
      else .error .malformed
    | none => .ok { d with fields := d.fields ++ [String.ofList word] }

/-- Takes the character at a position. -/
def step (text : List Char) (s : State) (position : Nat) (c : Char) :
    Except LogFilterFault State :=
  let word (start : Nat) := slice text start position
  let next := position + c.utf8Size
  let setTarget (start : Nat) (part : Part) := (word start).map fun word =>
    ({ part, directive := { s.directive with target := some (String.ofList word) } } : State)
  match s.part with
  | .start =>
    if c = '[' then .ok { s with part := .span next }
    else if startsWord c then .ok { s with part := .levelOrTarget position }
    else .error .malformed
  | .levelOrTarget start =>
    if c = '=' then setTarget start (.level next)
    else if c = '[' then setTarget start (.span next)
    else .ok s
  | .span start =>
    if c = ']' then
      (word start).map fun _ =>
        { part := .target, directive := { s.directive with inSpan := true } }
    else if c = '\x7b' then
      (word start).map fun word =>
        { part := .field next, directive := { s.directive with inSpan := !word.isEmpty } }
    else .ok s
  | .field start =>
    if c = '\x7d' then
      match word start with
      | .error fault => .error fault
      | .ok word =>
        (addField s.directive word).map fun d => { part := .fieldsDone, directive := d }
    else .ok s
  | .fieldsDone => if c = ']' then .ok { s with part := .target } else .error .malformed
  | .target => if c = '=' then .ok { s with part := .level next } else .error .malformed
  | .level _ => .ok s

/-- Takes characters one after the other. -/
def run (text : List Char) : State → Nat → List Char → Except LogFilterFault State
  | s, _, [] => .ok s
  | s, position, c :: cs =>
    match step text s position c with
    | .error fault => .error fault
    | .ok s => run text s (position + c.utf8Size) cs

/-- The level after `=`; nothing at all means every line. -/
def levelAfter (cs : List Char) : Except LogFilterFault LogLevel :=
  if cs.isEmpty then .ok .trace
  else
    match LogLevel.parse? cs with
    | some level => .ok level
    | none => .error .malformed

/-- Ends a directive.  A word on its own is a level if it can be one, and else
    a target of which every line is written. -/
def finish (text : List Char) (s : State) : Except LogFilterFault LogDirective :=
  match s.part with
  | .levelOrTarget start =>
    (sliceFrom text start).map fun word =>
      match LogLevel.parse? word with
      | some level => { s.directive with level }
      | none => { s.directive with target := some (String.ofList word) }
  | .level start =>
    match sliceFrom text start with
    | .error fault => .error fault
    | .ok word => (levelAfter word).map fun level => { s.directive with level }
  | .target => .ok s.directive
  | .start | .span _ | .field _ | .fieldsDone => .error .malformed

/-- Reads a directive.  White space around it is passed over while its parts
    are found; the parts are then taken from the whole text, so that they may
    be torn out of its characters. -/
def read (text : List Char) : Except LogFilterFault LogDirective :=
  match run text {} 0 (trim text) with
  | .error fault => .error fault
  | .ok s => finish text s

/-- Does the directive concern a line with a target and fields? -/
def concerns (d : LogDirective) (target : String) (fields : List String) : Bool :=
  !d.inSpan && ((d.target.getD "").toList.isPrefixOf target.toList) &&
    d.fields.all fun field => fields.contains field

/-- How much a directive says about the lines it concerns. -/
def weight (d : LogDirective) : Nat × Nat :=
  (match d.target with
    | none => 0
    | some target => target.utf8ByteSize + 1, d.fields.length)

/-- Is the first directive at least as special as the second?  Of two with
    equal weight the one whose fields come later in the alphabet is. -/
def outweighs (d e : LogDirective) : Bool :=
  d.weight.1 > e.weight.1 ||
    (d.weight.1 == e.weight.1 &&
      (d.weight.2 > e.weight.2 || (d.weight.2 == e.weight.2 && !decide (d.fields < e.fields))))

end LogDirective

/-- The directives of a filter. -/
structure LogFilter where
  directives : List LogDirective
  deriving Repr, DecidableEq

namespace LogFilter

/-- The variable of the environment that names a filter. -/
def variableName : String :=
  "RUST_LOG"

/-- The filter that lets errors pass. -/
def errorsOnly : LogFilter :=
  { directives := [{ level := .error, target := none, inSpan := false, fields := [] }] }

/-- Reads directives; the first that cannot be read counts. -/
def readAll : List (List Char) → Except LogFilterFault (List LogDirective)
  | [] => .ok []
  | piece :: pieces =>
    match LogDirective.read piece with
    | .error fault => .error fault
    | .ok d => (readAll pieces).map (d :: ·)

/-- Reads a filter: directives with commas between them.  Nothing need stand
    between two commas; without any directive errors pass. -/
def read (text : String) : Except LogFilterFault LogFilter :=
  match (text.toList.splitOn ',').filter (!·.isEmpty) with
  | [] => .ok errorsOnly
  | pieces => (readAll pieces).map fun directives => { directives }

/-- The directive that decides on a line. -/
def deciding? (f : LogFilter) (target : String) (fields : List String) : Option LogDirective :=
  (f.directives.filter fun d => d.concerns target fields).foldl
    (fun best d => match best with
      | none => some d
      | some b => if d.outweighs b then some d else some b) none

/-- Is a line written? -/
def passes (f : LogFilter) (level : LogLevel) (target : String) (fields : List String) : Bool :=
  match f.deciding? target fields with
  | none => false
  | some d => level.rank ≤ d.level.rank

/-- The filter of a run: the one that the environment names, and the one of the
    settings if there is none or it is malformed. -/
def choose (fromEnvironment : Option String) (fromSettings : String) :
    Except LogFilterFault LogFilter :=
  match fromEnvironment.map read with
  | none | some (.error .malformed) => read fromSettings
  | some result => result

end LogFilter

end FlashSale
