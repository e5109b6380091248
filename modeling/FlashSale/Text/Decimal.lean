/-! # Decimal integers

    Text is read as an integer of a given range: at most one sign, then at
    least one digit, and nothing else.  The characters are judged from left to
    right, so a text that has both a foreign character and too many digits
    fails with whichever comes first. -/

namespace FlashSale.Text

/-- Why a text is no integer of the range asked for. -/
inductive IntegerFault where
  | empty
  | invalidDigit
  | tooLarge
  | tooSmall
  deriving Repr, DecidableEq

/-- The wording of a fault. -/
def IntegerFault.message : IntegerFault → String
  | .empty => "cannot parse integer from empty string"
  | .invalidDigit => "invalid digit found in string"
  | .tooLarge => "number too large to fit in target type"
  | .tooSmall => "number too small to fit in target type"

/-- The value of an ASCII digit. -/
def digit? (c : Char) : Option Nat :=
  if '0' ≤ c ∧ c ≤ '9' then some (c.toNat - 48) else none

/-- Continues a number with more digits; `excess` is the fault of leaving the
    bound. -/
def readDigits (bound : Nat) (excess : IntegerFault) : Nat → List Char → Except IntegerFault Nat
  | value, [] => .ok value
  | value, c :: cs =>
    match digit? c with
    | none => .error .invalidDigit
    | some d =>
      let next := 10 * value + d
      if bound < next then .error excess else readDigits bound excess next cs

/-- Reads at least one digit. -/
def readMagnitude (bound : Nat) (excess : IntegerFault) : List Char → Except IntegerFault Nat
  | [] => .error .invalidDigit
  | cs => readDigits bound excess 0 cs

/-- Reads an integer from `0` to `max`; a `+` may stand in front. -/
def readNatural (max : Nat) : List Char → Except IntegerFault Nat
  | [] => .error .empty
  | '+' :: cs => readMagnitude max .tooLarge cs
  | cs => readMagnitude max .tooLarge cs

/-- Reads an integer from `-(max + 1)` to `max`; a sign may stand in front. -/
def readSigned (max : Nat) : List Char → Except IntegerFault Int
  | [] => .error .empty
  | '+' :: cs => (readMagnitude max .tooLarge cs).map Int.ofNat
  | '-' :: cs => (readMagnitude (max + 1) .tooSmall cs).map fun n => -(Int.ofNat n)
  | cs => (readMagnitude max .tooLarge cs).map Int.ofNat

/-- Reads a 64-bit integer without sign. -/
def readUInt64 (cs : List Char) : Except IntegerFault UInt64 :=
  (readNatural (UInt64.size - 1) cs).map UInt64.ofNat

/-- Reads a 32-bit integer without sign. -/
def readUInt32 (cs : List Char) : Except IntegerFault UInt32 :=
  (readNatural (UInt32.size - 1) cs).map UInt32.ofNat

/-- Reads a 16-bit integer without sign. -/
def readUInt16 (cs : List Char) : Except IntegerFault UInt16 :=
  (readNatural (UInt16.size - 1) cs).map UInt16.ofNat

/-- Reads a 64-bit integer with sign. -/
def readInt64 (cs : List Char) : Except IntegerFault Int64 :=
  (readSigned (Int64.size / 2 - 1) cs).map Int64.ofInt

/-- The decimal digits of a number, without leading zeros. -/
def decimal (n : Nat) : List Char :=
  Nat.toDigits 10 n

/-- The decimal text of an integer, with `-` in front of a negative one. -/
def decimalInt (i : Int) : List Char :=
  if i < 0 then '-' :: decimal i.natAbs else decimal i.natAbs

/-- The decimal text of a natural number. -/
def natText (n : Nat) : String :=
  String.ofList (decimal n)

/-- The decimal text of an integer. -/
def intText (i : Int) : String :=
  String.ofList (decimalInt i)

end FlashSale.Text
