import FlashSale.Answer.Envelope
import FlashSale.RequestId
import FlashSale.Signature
import FlashSale.Text.Blank

/-! # Requests

    What clients ask of the gateway, how a purchase is read from a request, and
    why a request is refused. -/

namespace FlashSale

open Text

/-- What is asked for. -/
inductive RequestKind where
  /-- To be admitted to a purchase. -/
  | purchase
  /-- The state of one or all products. -/
  | info
  deriving Repr, DecidableEq

/-- A request, taken apart.  Of pairs with one name the first counts. -/
structure Request where
  kind : RequestKind
  query : List (String × String)
  cookies : List (String × String)
  /-- The second at which the request came in. -/
  time : Int64
  id : RequestId
  deriving Repr, DecidableEq

/-! ### Refusals -/

/-- Why a request is refused. -/
inductive Refusal where
  /-- There is a `%` in the query that starts no escape. -/
  | brokenEscape (position : Nat)
  | missingProduct
  | invalidProduct
  | missingTime
  | invalidUser
  | missingSignature
  | wrongSignature
  | busy
  | unknownProduct
  deriving Repr, DecidableEq

namespace Refusal

/-- The code of a refusal. -/
def code : Refusal → Code
  | .brokenEscape _ | .missingProduct | .invalidProduct | .missingTime => .invalidRequest
  | .invalidUser | .missingSignature | .wrongSignature => .authFailed
  | .busy => .serviceBusy
  | .unknownProduct => .notFoundProduct

/-- The wording of a refusal. -/
def message : Refusal → String
  | .brokenEscape position =>
    "invalid request: malformed query: broken percent escape at byte " ++ natText position
  | .missingProduct => "invalid request: missing product_id"
  | .invalidProduct => "invalid request: invalid product_id"
  | .missingTime => "invalid request: missing access time"
  | .invalidUser => "invalid cookie: userId"
  | .missingSignature => "invalid cookie: userAuthSign"
  | .wrongSignature => "invalid user signature"
  | .busy => "service busy"
  | .unknownProduct => "product not found"

/-- The answer to a request that is refused. -/
def envelope (r : Refusal) : Envelope :=
  .status r.code r.message

end Refusal

/-! ### Purchases -/

/-- A user who wants to buy a product. -/
structure Purchase where
  product : UInt64
  user : UInt64
  deriving Repr, DecidableEq

namespace Request

/-- Reads the id of a product: a positive number, with any white space around
    it. -/
def readProduct (text : String) : Except Refusal UInt64 :=
  match readUInt64 (trim text.toList) with
  | .error _ => .error .invalidProduct
  | .ok id => if id = 0 then .error .invalidProduct else .ok id

/-- The product that a request names, if it names one. -/
def product? (r : Request) : Option (Except Refusal UInt64) :=
  (r.query.lookup "product_id").map readProduct

/-- The user that a request names: a number with nothing around it. -/
def user (r : Request) : Except Refusal UInt64 :=
  match r.cookies.lookup "userId" with
  | none => .error .invalidUser
  | some text =>
    match readUInt64 text.toList with
    | .error _ => .error .invalidUser
    | .ok user => .ok user

/-- Checks that the request carries the signature of a user. -/
def checkSignature (a : Authenticator) (user : UInt64) (r : Request) : Except Refusal Unit :=
  match r.cookies.lookup "userAuthSign" with
  | none => .error .missingSignature
  | some presented => if a.verify user presented then .ok () else .error .wrongSignature

/-- Reads a purchase from a request: the product, the time, the user and the
    signature, in this order. -/
def purchase (a : Authenticator) (r : Request) : Except Refusal Purchase :=
  match r.product? with
  | none => .error .missingProduct
  | some (.error refusal) => .error refusal
  | some (.ok product) =>
    if r.time ≤ 0 then .error .missingTime
    else
      match r.user with
      | .error refusal => .error refusal
      | .ok user => (r.checkSignature a user).map fun _ => { product, user }

end Request

end FlashSale
