import FlashSale.Text.Hex

/-! # Messages as blocks of words

    What the digests have in common: padding to whole blocks of 64 bytes, and
    32-bit words as bytes in either order. -/

namespace FlashSale.Digest

open Text

/-- Turns the bits of a word to the left. -/
def rotateLeft (w n : UInt32) : UInt32 :=
  (w <<< n) ||| (w >>> (32 - n))

/-- Turns the bits of a word to the right. -/
def rotateRight (w n : UInt32) : UInt32 :=
  (w >>> n) ||| (w <<< (32 - n))

/-- The bytes of a word, the low one first. -/
def bytesLow (w : UInt32) : Bytes :=
  [w.toUInt8, (w >>> 8).toUInt8, (w >>> 16).toUInt8, (w >>> 24).toUInt8]

/-- The bytes of a word, the high one first. -/
def bytesHigh (w : UInt32) : Bytes :=
  [(w >>> 24).toUInt8, (w >>> 16).toUInt8, (w >>> 8).toUInt8, w.toUInt8]

/-- The words of a block whose bytes come the low one first. -/
def wordsLow : Bytes → List UInt32
  | a :: b :: c :: d :: rest =>
    (a.toUInt32 ||| (b.toUInt32 <<< 8) ||| (c.toUInt32 <<< 16) ||| (d.toUInt32 <<< 24)) ::
      wordsLow rest
  | _ => []

/-- The words of a block whose bytes come the high one first. -/
def wordsHigh : Bytes → List UInt32
  | a :: b :: c :: d :: rest =>
    ((a.toUInt32 <<< 24) ||| (b.toUInt32 <<< 16) ||| (c.toUInt32 <<< 8) ||| d.toUInt32) ::
      wordsHigh rest
  | _ => []

/-- A number of 64 bits as bytes, the low one first. -/
def bytesLow64 (n : Nat) : Bytes :=
  (List.range 8).map fun i => UInt8.ofNat (n >>> (8 * i))

/-- A number of 64 bits as bytes, the high one first. -/
def bytesHigh64 (n : Nat) : Bytes :=
  (bytesLow64 n).reverse

/-- How many zeros bring a message of `size` bytes, one marker and eight bytes
    of length to whole blocks. -/
def paddingZeros (size : Nat) : Nat :=
  (119 - size % 64) % 64

/-- Pads a message: a marker bit, zeros, and the length in bits. -/
def pad (lengthBytes : Nat → Bytes) (message : Bytes) : Bytes :=
  message ++ 0x80 :: (List.replicate (paddingZeros message.length) 0 ++
    lengthBytes (8 * message.length))

/-- Cuts a padded message into `n` blocks. -/
def takeBlocks : Nat → Bytes → List Bytes
  | 0, _ => []
  | n + 1, bs => bs.take 64 :: takeBlocks n (bs.drop 64)

/-- The blocks of a padded message. -/
def blocks (bs : Bytes) : List Bytes :=
  takeBlocks (bs.length / 64) bs

end FlashSale.Digest
