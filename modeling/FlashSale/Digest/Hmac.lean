import FlashSale.Digest.Sha256

/-! # HMAC-SHA256

    A digest under a key: the message is hashed behind the key, and the result
    behind the key once more, each time with other bits of the key flipped. -/

namespace FlashSale.Digest.Hmac

open Text

/-- The key as one block: hashed if it is longer, then filled up with zeros. -/
def blockKey (key : Bytes) : Bytes :=
  let key := if 64 < key.length then Sha256.hash key else key
  key ++ List.replicate (64 - key.length) 0

/-- The 32 bytes that authenticate a message under a key. -/
def sign (key message : Bytes) : Bytes :=
  let block := blockKey key
  let inner := Sha256.hash (block.map (· ^^^ 0x36) ++ message)
  Sha256.hash (block.map (· ^^^ 0x5C) ++ inner)

end FlashSale.Digest.Hmac
