import FlashSale.Text.Hex

/-! # UTF-8

    Bytes are cut into characters and broken parts by one machine.  A part is
    broken when it cannot be continued to a character; the byte that shows this
    starts the next part.  The strict reading refuses a broken part, the
    forgiving one puts U+FFFD in its place. -/

namespace FlashSale.Text

/-- What one stretch of bytes stands for. -/
inductive Chunk where
  | char (c : Char)
  | broken
  deriving Repr, DecidableEq

/-- A character whose lead byte has been read: how many bytes are owed, the
    bits collected so far, and the range of the next byte. -/
structure Partial where
  owed : Nat
  bits : Nat
  low : UInt8 := 0x80
  high : UInt8 := 0xBF
  deriving Repr, DecidableEq

/-- The role of a byte that starts a stretch. -/
inductive Lead where
  | single (c : Char)
  | multi (p : Partial)
  | broken
  deriving Repr, DecidableEq

/-- Classifies a first byte.  The ranges of the second byte leave out overlong
    forms, surrogates and numbers above U+10FFFF. -/
def Lead.ofByte (b : UInt8) : Lead :=
  if b < 0x80 then .single (Char.ofNat b.toNat)
  else if b < 0xC2 then .broken
  else if b < 0xE0 then .multi { owed := 1, bits := b.toNat - 0xC0 }
  else if b = 0xE0 then .multi { owed := 2, bits := 0, low := 0xA0 }
  else if b = 0xED then .multi { owed := 2, bits := 0x0D, high := 0x9F }
  else if b < 0xF0 then .multi { owed := 2, bits := b.toNat - 0xE0 }
  else if b = 0xF0 then .multi { owed := 3, bits := 0, low := 0x90 }
  else if b < 0xF4 then .multi { owed := 3, bits := b.toNat - 0xF0 }
  else if b = 0xF4 then .multi { owed := 3, bits := 4, high := 0x8F }
  else .broken

/-- Cuts bytes into chunks, from the middle of a character on. -/
def chunksFrom : Option Partial → Bytes → List Chunk
  | none, [] => []
  | some _, [] => [.broken]
  | some p, b :: bs =>
    if p.low ≤ b ∧ b ≤ p.high then
      let bits := p.bits * 64 + (b.toNat - 0x80)
      if p.owed ≤ 1 then .char (Char.ofNat bits) :: chunksFrom none bs
      else chunksFrom (some { owed := p.owed - 1, bits := bits }) bs
    else
      .broken ::
        match Lead.ofByte b with
        | .single c => .char c :: chunksFrom none bs
        | .multi q => chunksFrom (some q) bs
        | .broken => .broken :: chunksFrom none bs
  | none, b :: bs =>
    match Lead.ofByte b with
    | .single c => .char c :: chunksFrom none bs
    | .multi q => chunksFrom (some q) bs
    | .broken => .broken :: chunksFrom none bs

/-- Cuts bytes into chunks. -/
def chunks (bs : Bytes) : List Chunk :=
  chunksFrom none bs

/-- The character of a chunk that is not broken. -/
def Chunk.char? : Chunk → Option Char
  | .char c => some c
  | .broken => none

/-- The character of a chunk, U+FFFD for a broken one. -/
def Chunk.orReplacement : Chunk → Char
  | .char c => c
  | .broken => '\uFFFD'

/-- The characters of well-formed UTF-8. -/
def utf8Decode? (bs : Bytes) : Option (List Char) :=
  (chunks bs).mapM Chunk.char?

/-- The characters of any bytes, each broken part read as U+FFFD. -/
def utf8DecodeLossy (bs : Bytes) : List Char :=
  (chunks bs).map Chunk.orReplacement

/-- The bytes of some characters. -/
def utf8Encode (cs : List Char) : Bytes :=
  cs.flatMap String.utf8EncodeChar

/-- The bytes of a string. -/
def bytesOf (s : String) : Bytes :=
  utf8Encode s.toList

/-- The string of well-formed UTF-8. -/
def stringOf? (bs : Bytes) : Option String :=
  (utf8Decode? bs).map String.ofList

end FlashSale.Text
