import FlashSale.Text.Blank
import FlashSale.Text.Split

/-! # The flags of a pattern

    Flags are letters that are set or cleared for a part of a pattern.  Three of
    them decide what may be written there: `i`, `u` and `x`. -/

namespace FlashSale.Text.Pattern

/-- The flags that decide what may be written. -/
structure Flags where
  /-- Do letters stand for either case? -/
  ignoreCase : Bool := false
  /-- Does a pattern speak of characters, and not of bytes? -/
  unicode : Bool := true
  /-- Are blanks and comments passed over? -/
  spaced : Bool := false
  deriving Repr, DecidableEq

namespace Flags

/-- Can a character stand for itself?  Without tables of letters it cannot stand
    for those of either case. -/
def allowLiteral (f : Flags) : Bool :=
  !(f.ignoreCase && f.unicode)

/-- Sets or clears the flag with a letter; the other flags do not matter
    here. -/
def set (f : Flags) (letter : Char) (value : Bool) : Flags :=
  if letter = 'i' then { f with ignoreCase := value }
  else if letter = 'u' then { f with unicode := value }
  else if letter = 'x' then { f with spaced := value }
  else f

/-- The letters of flags. -/
def letters : List Char :=
  ['i', 'm', 's', 'U', 'u', 'R', 'x']

/-- Applies a list of flags; those after `-` are cleared. -/
def apply (f : Flags) (items : List Char) : Flags :=
  let (on, off) := splitFirst '-' items
  off.foldl (fun f letter => f.set letter false) (on.foldl (fun f letter => f.set letter true) f)

/-- Is this a list of flags: letters and at most one `-` that has letters after
    it, all different? -/
def areListed (items : List Char) : Bool :=
  items.all (fun c => c == '-' || letters.contains c) && items.getLast? != some '-' &&
    decide items.Nodup

/-! ### Blanks and comments -/

/-- Drops blanks and comments; a comment goes from `#` to the end of the line.
    `inComment` tells that one has begun. -/
def dropSpace (inComment : Bool) : List Char → List Char
  | [] => []
  | c :: cs =>
    if inComment then dropSpace (c != '\n') cs
    else if isBlank c then dropSpace false cs
    else if c = '#' then dropSpace true cs
    else c :: cs

/-- Passes over blanks and comments where the flag `x` is set. -/
def skip (f : Flags) (cs : List Char) : List Char :=
  if f.spaced then dropSpace false cs else cs

/-- The sign after a hyphen, which decides whether the hyphen makes a range.
    Where the flag `x` is set, blanks and one `#` are passed over, but what
    follows the `#` counts. -/
def glance? (f : Flags) (cs : List Char) : Option Char :=
  if f.spaced then
    match cs.dropWhile isBlank with
    | '#' :: rest => (rest.dropWhile isBlank).head?
    | rest => rest.head?
  else cs.head?

end Flags

end FlashSale.Text.Pattern
