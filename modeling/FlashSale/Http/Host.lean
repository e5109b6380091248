import FlashSale.Text.CharRanges
import FlashSale.Text.Percent
import FlashSale.Text.Utf8

/-! # Hosts

    The host of a web address is a name, or the number of a machine in four
    parts.  Many texts stand for one host: escapes are undone, case does not
    matter, some characters vanish, and a number may be written in fewer parts
    and in other systems than the decimal one. -/

namespace FlashSale.Http.Host

open Text

/-! ### Names -/

/-- The characters that vanish from a name: what only says where a line may be
    broken, how a character is drawn, or that nothing is there. -/
def vanishing : List (Nat × Nat) :=
  [(0xAD, 0xAD), (0x34F, 0x34F), (0x115F, 0x1160), (0x17B4, 0x17B5), (0x180B, 0x180F),
    (0x200B, 0x200B), (0x2060, 0x2064), (0x206A, 0x206F), (0x3164, 0x3164), (0xFE00, 0xFE0F),
    (0xFEFF, 0xFEFF), (0xFFA0, 0xFFA0), (0x1BCA0, 0x1BCA3), (0x1D173, 0x1D17A),
    (0xE0100, 0xE01EF)]

/-- The signs that a name cannot hold, for they have a meaning of their own. -/
def signs : List Char :=
  ['#', '%', '/', ':', '<', '>', '?', '@', '[', '\\', ']', '^', '|']

/-- Can a name hold the character?  It can hold neither a control nor a blank
    of ASCII. -/
def isAllowed (c : Char) : Bool :=
  0x20 < c.toNat && c.toNat != 0x7F && !signs.contains c

/-- The name that a text stands for. -/
def name? (cs : List Char) : Option (List Char) :=
  (utf8Decode? (Percent.decode (utf8Encode cs))).bind fun cs =>
    let name := asciiLower (cs.filter fun c => !liesIn vanishing c)
    if !name.isEmpty && name.all isAllowed then some name else none

/-! ### Numbers -/

/-- The value of digits in a number system; there is none if one of them is not
    of the system. -/
def valueIn? (base : Nat) (cs : List Char) : Option Nat :=
  cs.foldlM (fun value c =>
    (hexValue? c).bind fun digit => if digit < base then some (base * value + digit) else none) 0

/-- The number that a part of a host stands for: `0x` tells that it is
    hexadecimal, and any other `0` in front that it is octal. -/
def number? : List Char → Option Nat
  | [] => none
  | '0' :: 'x' :: cs => valueIn? 16 cs
  | ['0'] => some 0
  | '0' :: cs => valueIn? 8 cs
  | cs => valueIn? 10 cs

/-- The parts between the points of a name; a point at its end does not
    matter. -/
def parts (name : List Char) : List (List Char) :=
  let pieces := name.splitOn '.'
  if pieces.length > 1 && pieces.getLast? == some [] then pieces.dropLast else pieces

/-- Is the name a number?  Its last part decides. -/
def isNumber (name : List Char) : Bool :=
  (parts name).getLast?.any fun part =>
    (number? part).isSome || (!part.isEmpty && part.all Char.isDigit)

/-- The four bytes that numbers stand for: one byte each, but the last number
    fills all the bytes that are left. -/
def address? (numbers : List Nat) : Option Nat :=
  let before := numbers.dropLast
  numbers.getLast?.bind fun last =>
    if numbers.length ≤ 4 && before.all (· < 256) && last >>> (8 * (5 - numbers.length)) == 0 then
      some (before.foldr (fun byte rest => (byte <<< 24) + rest / 256) 0 + last)
    else none

/-- The four parts of an address, as they are usually written. -/
def dotted (address : Nat) : String :=
  let byte (place : Nat) := String.ofList (Nat.toDigits 10 (address >>> (8 * place) % 256))
  byte 3 ++ "." ++ byte 2 ++ "." ++ byte 1 ++ "." ++ byte 0

/-! ### Hosts -/

/-- The host that a text stands for. -/
def parse? (cs : List Char) : Option String :=
  (name? cs).bind fun name =>
    if isNumber name then (((parts name).mapM number?).bind address?).map dotted
    else some (String.ofList name)

end FlashSale.Http.Host
