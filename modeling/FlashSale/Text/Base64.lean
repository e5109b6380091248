import FlashSale.Text.Hex

/-! # Base64

    Three bytes are written as four letters of the standard alphabet; the last
    group is filled up with `=`.  Reading accepts exactly what writing
    produces: padding is required, and the bits that a padded group does not
    use are zero. -/

namespace FlashSale.Text.Base64

/-- The letter of a value below 64. -/
def letter (n : Nat) : Char :=
  if n < 26 then Char.ofNat (65 + n)
  else if n < 52 then Char.ofNat (71 + n)
  else if n < 62 then Char.ofNat (n - 4)
  else if n = 62 then '+'
  else '/'

/-- The value of a letter. -/
def value? (c : Char) : Option Nat :=
  if 'A' ≤ c ∧ c ≤ 'Z' then some (c.toNat - 65)
  else if 'a' ≤ c ∧ c ≤ 'z' then some (c.toNat - 71)
  else if '0' ≤ c ∧ c ≤ '9' then some (c.toNat + 4)
  else if c = '+' then some 62
  else if c = '/' then some 63
  else none

/-- Writes bytes in base64. -/
def encode : Bytes → List Char
  | [] => []
  | [a] => [letter (a.toNat / 4), letter (a.toNat % 4 * 16), '=', '=']
  | [a, b] =>
    [letter (a.toNat / 4), letter (a.toNat % 4 * 16 + b.toNat / 16),
      letter (b.toNat % 16 * 4), '=']
  | a :: b :: c :: rest =>
    letter (a.toNat / 4) :: letter (a.toNat % 4 * 16 + b.toNat / 16) ::
      letter (b.toNat % 16 * 4 + c.toNat / 64) :: letter (c.toNat % 64) :: encode rest

/-- The byte of a group with two pads. -/
def decodeOne? (p q : Char) : Option Bytes := do
  let x ← value? p
  let y ← value? q
  if y % 16 = 0 then some [UInt8.ofNat (x * 4 + y / 16)] else none

/-- The bytes of a group with one pad. -/
def decodeTwo? (p q r : Char) : Option Bytes := do
  let x ← value? p
  let y ← value? q
  let z ← value? r
  if z % 4 = 0 then
    some [UInt8.ofNat (x * 4 + y / 16), UInt8.ofNat (y % 16 * 16 + z / 4)]
  else none

/-- The bytes of a full group. -/
def decodeThree? (p q r s : Char) : Option Bytes := do
  let x ← value? p
  let y ← value? q
  let z ← value? r
  let w ← value? s
  return [UInt8.ofNat (x * 4 + y / 16), UInt8.ofNat (y % 16 * 16 + z / 4),
    UInt8.ofNat (z % 4 * 64 + w)]

/-- Reads base64.  Only the last group may be padded. -/
def decode? : List Char → Option Bytes
  | [] => some []
  | [p, q, '=', '='] => decodeOne? p q
  | [p, q, r, '='] => decodeTwo? p q r
  | p :: q :: r :: s :: rest => do
    let group ← decodeThree? p q r s
    let bs ← decode? rest
    return group ++ bs
  | _ => none

end FlashSale.Text.Base64
