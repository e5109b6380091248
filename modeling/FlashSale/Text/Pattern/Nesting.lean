/-! # How deep the parts of a pattern are nested

    Only what has parts of its own counts: a group, a repetition, a class, and
    two or more parts that stand side by side or are alternatives. -/

namespace FlashSale.Text.Pattern

/-- The depth to which the parts of a pattern may be nested. -/
def maxDepth : Nat := 250

/-! ### Rows -/

/-- Parts that stand side by side. -/
structure Row where
  count : Nat := 0
  /-- The depth of the deepest of them. -/
  deepest : Nat := 0
  deriving Repr, DecidableEq

namespace Row

/-- The row with one part more. -/
def add (r : Row) (depth : Nat) : Row :=
  { count := r.count + 1, deepest := max r.deepest depth }

/-- The depth of a row.  One part alone makes no row. -/
def depth (r : Row) : Nat :=
  if r.count ≤ 1 then r.deepest else r.deepest + 1

end Row

/-! ### Sequences -/

/-- The last part of a sequence, which a sign after it may repeat. -/
structure Part where
  depth : Nat
  repeatable : Bool
  deriving Repr, DecidableEq

/-- Parts that follow each other. -/
structure Sequence where
  earlier : Row := {}
  last : Option Part := none
  deriving Repr, DecidableEq

namespace Sequence

/-- All parts as a row. -/
def row (s : Sequence) : Row :=
  match s.last with
  | none => s.earlier
  | some part => s.earlier.add part.depth

/-- The sequence with one part more. -/
def add (s : Sequence) (part : Part) : Sequence :=
  { earlier := s.row, last := some part }

/-- Repeats the last part. -/
def repeatLast? (s : Sequence) : Option Sequence :=
  s.last.bind fun part =>
    if part.repeatable then some { s with last := some { part with depth := part.depth + 1 } }
    else none

end Sequence

/-! ### Alternatives -/

/-- What a group holds, or the whole pattern: alternatives, of which the last
    one is being read. -/
structure Body where
  earlier : Row := {}
  current : Sequence := {}
  deriving Repr, DecidableEq

namespace Body

/-- Ends an alternative. -/
def branch (b : Body) : Body :=
  { earlier := b.earlier.add b.current.row.depth }

/-- The body with one part more. -/
def add (b : Body) (part : Part) : Body :=
  { b with current := b.current.add part }

/-- Repeats the last part. -/
def repeatLast? (b : Body) : Option Body :=
  b.current.repeatLast?.map fun current => { b with current }

/-- The depth of a body. -/
def depth (b : Body) : Nat :=
  b.branch.earlier.depth

end Body

end FlashSale.Text.Pattern
