import FlashSale.Answer.Envelope
import FlashSale.Json.Decode
import FlashSale.Json.Reader

/-! # Replies

    An envelope as a client reads it.  The code may be one that this library
    does not know. -/

namespace FlashSale

open Text

/-- An answer as read back from its bytes. -/
structure Reply where
  code : UInt32
  message : String
  data : Option (List Offer)
  deriving Repr, DecidableEq

/-- Reads an offer. -/
def Offer.ofJson? (v : Json) : Option Offer := do
  let fields ← Json.fields? { names := ["product_id", "start", "end", "status"], atLeast := 4 } v
  let productId ← fields.required? "product_id" Json.uint64?
  let start ← fields.required? "start" Json.bool?
  let finished ← fields.required? "end" Json.bool?
  let status ← fields.required? "status" Json.string?
  return { productId, start, finished, status }

namespace Reply

/-- Reads a reply; its data may be missing or `null`. -/
def ofJson? (v : Json) : Option Reply := do
  let fields ← Json.fields? { names := ["code", "message", "data"], atLeast := 2 } v
  let code ← fields.required? "code" Json.uint32?
  let message ← fields.required? "message" Json.string?
  let data ← fields.orDefault? "data" (Json.nullable? (Json.list? Offer.ofJson?)) none
  return { code, message, data }

/-- Reads the body of an answer. -/
def parse? (body : Bytes) : Option Reply :=
  (Json.parse? body).bind ofJson?

/-- The code, if it is a known one. -/
def kind? (r : Reply) : Option Code :=
  Code.ofNumber? r.code

end Reply

end FlashSale
