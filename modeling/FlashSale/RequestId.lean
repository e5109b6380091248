import FlashSale.Text.Hex

/-! # Request ids

    A request is known by 128 bits, written as 32 hexadecimal digits in groups.
    Four spellings are read, one is written. -/

namespace FlashSale

open Text

/-- The id of a request. -/
structure RequestId where
  bits : BitVec 128
  deriving Repr, DecidableEq

namespace RequestId

/-- The id with a number. -/
def ofNat (n : Nat) : RequestId :=
  { bits := BitVec.ofNat 128 n }

/-- Reads 32 digits of either case. -/
def ofDigits? (cs : List Char) : Option RequestId :=
  if cs.length = 32 then
    (cs.foldlM (fun n c => (hexValue? c).map (16 * n + ·)) 0).map ofNat
  else none

/-- The lengths of the groups between hyphens. -/
def groups : List Nat :=
  [8, 4, 4, 4, 12]

/-- Reads digits in groups. -/
def ofGroups? (cs : List Char) : Option RequestId :=
  let pieces := cs.splitOn '-'
  if pieces.map List.length = groups then ofDigits? pieces.flatten else none

/-- What may stand in front of the groups. -/
def urnStart : List Char :=
  "urn:uuid:".toList

/-- Reads digits, groups, groups in braces, or groups after `urn:uuid:`. -/
def parse? (cs : List Char) : Option RequestId :=
  if cs.length = 32 then ofDigits? cs
  else if cs.length = 36 then ofGroups? cs
  else if cs.length = 38 then
    if cs.head? = some '\x7b' ∧ cs.getLast? = some '\x7d' then ofGroups? (cs.drop 1).dropLast
    else none
  else if cs.length = 45 then
    if asciiLower (cs.take 9) = urnStart then ofGroups? (cs.drop 9) else none
  else none

/-- The lower-case digits of an id, the highest first. -/
def digits (id : RequestId) : List Char :=
  (List.range 32).map fun i => hexDigit (id.bits.toNat >>> (4 * (31 - i)) % 16)

/-- Puts hyphens between groups of digits. -/
def hyphenate : List Nat → List Char → List Char
  | [], cs => cs
  | [_], cs => cs
  | n :: rest, cs => cs.take n ++ '-' :: hyphenate rest (cs.drop n)

/-- The text of an id. -/
def text (id : RequestId) : String :=
  String.ofList (hyphenate groups id.digits)

end RequestId

end FlashSale
