import FlashSale.Answer.Code
import FlashSale.Json.Writer

/-! # Envelopes

    What is sent back to a client: a code, a message, and for a question about
    products the state of one or all of them. -/

namespace FlashSale

open Text

/-- The state of one product as clients see it. -/
structure Offer where
  productId : UInt64
  /-- Can it be bought now? -/
  start : Bool
  /-- Can it no longer be bought? -/
  finished : Bool
  /-- The same in words. -/
  status : String
  deriving Repr, DecidableEq

/-- An answer. -/
inductive Envelope where
  | status (code : Code) (message : String)
  | item (offer : Offer)
  | list (offers : List Offer)
  deriving Repr, DecidableEq

/-- The JSON form of an offer. -/
def Offer.toJson (o : Offer) : Json :=
  .ofMembers [
    ("product_id", .ofInt o.productId.toNat),
    ("start", .bool o.start),
    ("end", .bool o.finished),
    ("status", .ofString o.status)]

namespace Envelope

/-- The message of every answer that went well. -/
def successMessage : String := "success"

/-- The answer of an admitted purchase. -/
def success : Envelope :=
  .status .ok successMessage

/-- The code of an answer. -/
def code : Envelope → Code
  | .status code _ => code
  | .item _ | .list _ => .ok

/-- The message of an answer. -/
def message : Envelope → String
  | .status _ message => message
  | .item _ | .list _ => successMessage

/-- The offers of an answer, if it carries any. -/
def data? : Envelope → Option (List Offer)
  | .status _ _ => none
  | .item offer => some [offer]
  | .list offers => some offers

/-- The JSON form: code, message, and the data if there is any. -/
def toJson (e : Envelope) : Json :=
  .ofMembers <|
    [("code", Json.ofInt e.code.number.toNat), ("message", Json.ofString e.message)] ++
      e.data?.toList.map fun offers => ("data", .array (offers.map Offer.toJson))

/-- The bytes sent to the client. -/
def body (e : Envelope) : Bytes :=
  e.toJson.render

end Envelope

end FlashSale
