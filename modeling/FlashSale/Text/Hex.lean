/-! # Hexadecimal digits

    One digit is four bits; a byte is written as two lower-case digits. -/

namespace FlashSale.Text

/-- A sequence of bytes. -/
abbrev Bytes := List UInt8

/-- The value of a hexadecimal digit of either case. -/
def hexValue? (c : Char) : Option Nat :=
  if '0' ≤ c ∧ c ≤ '9' then some (c.toNat - 48)
  else if 'a' ≤ c ∧ c ≤ 'f' then some (c.toNat - 87)
  else if 'A' ≤ c ∧ c ≤ 'F' then some (c.toNat - 55)
  else none

/-- The value of a hexadecimal digit given as a byte. -/
def hexByteValue? (b : UInt8) : Option Nat :=
  hexValue? (Char.ofNat b.toNat)

/-- The lower-case digit of a value below sixteen. -/
def hexDigit (n : Nat) : Char :=
  Char.ofNat (if n < 10 then 48 + n else 87 + n)

/-- Two digits for a byte, the high one first. -/
def hexOfByte (b : UInt8) : List Char :=
  [hexDigit (b.toNat / 16), hexDigit (b.toNat % 16)]

/-- The lower-case hexadecimal text of some bytes. -/
def hexOfBytes (bs : Bytes) : List Char :=
  bs.flatMap hexOfByte

/-- Reads pairs of digits as bytes; refuses an odd digit and a character that
    is no digit. -/
def bytesOfHex? : List Char → Option Bytes
  | [] => some []
  | [_] => none
  | high :: low :: rest => do
    let h ← hexValue? high
    let l ← hexValue? low
    let bs ← bytesOfHex? rest
    return UInt8.ofNat (16 * h + l) :: bs

/-- Maps the letters `A` to `Z` of a text to lower case and leaves all else. -/
def asciiLower (cs : List Char) : List Char :=
  cs.map Char.toLower

end FlashSale.Text
