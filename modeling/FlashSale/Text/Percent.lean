import FlashSale.Text.Hex

/-! # Percent escapes

    `%` and two hexadecimal digits stand for one byte.  A `%` that does not
    start an escape stands for itself. -/

namespace FlashSale.Text.Percent

/-- The byte `%`. -/
def sign : UInt8 := 0x25

/-- The byte that two digits stand for. -/
def byteOfDigits? (high low : UInt8) : Option UInt8 := do
  let h ← hexByteValue? high
  let l ← hexByteValue? low
  return UInt8.ofNat (16 * h + l)

/-- Replaces each escape by its byte. -/
def decode : Bytes → Bytes
  | b :: high :: low :: rest =>
    if b = sign then
      match byteOfDigits? high low with
      | some byte => byte :: decode rest
      | none => b :: decode (high :: low :: rest)
    else b :: decode (high :: low :: rest)
  | b :: rest => b :: decode rest
  | [] => []

/-- Writes every byte as an escape. -/
def encode (bs : Bytes) : Bytes :=
  bs.flatMap fun b => sign :: (hexOfByte b).map fun c => UInt8.ofNat c.toNat

/-- The position, counted from `position`, of the first `%` that starts no escape. -/
def brokenFrom? (position : Nat) : Bytes → Option Nat
  | [] => none
  | b :: rest =>
    if b = sign then
      match rest with
      | high :: low :: _ =>
        if (byteOfDigits? high low).isSome then brokenFrom? (position + 1) rest
        else some position
      | _ => some position
    else brokenFrom? (position + 1) rest

/-- The position of the first `%` that starts no escape. -/
def broken? (bs : Bytes) : Option Nat :=
  brokenFrom? 0 bs

end FlashSale.Text.Percent
