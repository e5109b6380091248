import FlashSale.Gateway.Request
import FlashSale.Http.Cookie
import FlashSale.Http.Query

/-! # The HTTP surface

    Every HTTP request gets one response.  Two paths lead to the gateway; what
    comes on them is taken apart into a `Request`, and the gateway's answer is
    sent back as JSON under the id of the request. -/

namespace FlashSale.Http

open Text

/-! ### Messages -/

/-- An HTTP request without a body. -/
structure Message where
  method : String
  target : String
  headers : List (String × String)
  deriving Repr, DecidableEq

/-- An HTTP response. -/
structure Response where
  status : Nat
  headers : List (String × String)
  body : Bytes
  deriving Repr, DecidableEq

namespace Message

/-- The values of a header in their order, without white space around them.
    Case does not matter in names. -/
def values (m : Message) (name : String) : List String :=
  (m.headers.filter fun header => asciiLower header.1.toList == asciiLower name.toList).map
    fun header => trimmed header.2

/-- The id that the request brings: the first header value that is one. -/
def requestId? (m : Message) : Option RequestId :=
  (m.values "x-request-id").findSome? fun value => RequestId.parse? value.toList

/-- The cookies of all headers. -/
def cookies (m : Message) : List (String × String) :=
  (m.values "cookie").flatMap decodeCookies

/-- The path of the target, up to the first `?`. -/
def path (m : Message) : String :=
  String.ofList (splitFirst '?' m.target.toList).1

/-- The query of the target. -/
def query (m : Message) : Bytes :=
  utf8Encode (splitFirst '?' m.target.toList).2

end Message

/-! ### Responses -/

/-- The headers of every response; any page may use the gateway. -/
def sharedHeaders : List (String × String) :=
  [("access-control-allow-headers", "*"), ("access-control-allow-origin", "*"),
    ("access-control-expose-headers", "*"), ("access-control-request-method", "*")]

/-- A response without a body. -/
def Response.empty (status : Nat) : Response :=
  { status, headers := sharedHeaders, body := [] }

/-- The text that tells what can be asked for. -/
def usage : String :=
  "⚡ could not find the service you are looking for!\n\nValid requests are:\n" ++
    "  GET  /seckill?product_id=<id>&src=<str>&authcode=<str>&time=<str>&nance=<str>\n" ++
    "  GET  /secinfo[?product_id=<id>]"

/-- The response to a request for a path that leads nowhere. -/
def Response.notFound : Response :=
  { status := 404
    headers := sharedHeaders ++ [("content-type", "text/plain; charset=UTF-8")]
    body := bytesOf usage }

/-- The response that carries an answer of the gateway. -/
def Response.ofEnvelope (id : RequestId) (e : Envelope) : Response :=
  { status := 200
    headers := sharedHeaders ++ [("content-type", "application/json"), ("x-request-id", id.text)]
    body := e.body }

/-! ### Routing -/

/-- What is asked for on a path. -/
def kindOfPath? (path : String) : Option RequestKind :=
  if path = "/seckill" then some .purchase
  else if path = "/secinfo" then some .info
  else none

/-- What becomes of an HTTP request: it is answered at once, or the gateway is
    asked. -/
inductive Routed where
  | answered (response : Response)
  | asked (request : Request)
  deriving Repr, DecidableEq

/-- Takes an HTTP request apart.  A request that brings no id gets the minted
    one. -/
def route (minted : RequestId) (time : Int64) (m : Message) : Routed :=
  if m.method = "OPTIONS" then .answered (.empty 204)
  else if m.method = "GET" then
    match kindOfPath? m.path with
    | none => .answered .notFound
    | some kind =>
      let id := m.requestId?.getD minted
      match decodeQuery m.query with
      | .error position => .answered (.ofEnvelope id (Refusal.brokenEscape position).envelope)
      | .ok query => .asked { kind, query, cookies := m.cookies, time, id }
  else .answered (.empty 405)

/-- Serves an HTTP request; `handle` answers for the gateway and may change its
    state `s`. -/
def serve {σ : Type} (handle : σ → Request → Envelope × σ) (minted : RequestId) (time : Int64)
    (s : σ) (m : Message) : Response × σ :=
  match route minted time m with
  | .answered response => (response, s)
  | .asked request =>
    let (envelope, s) := handle s request
    (.ofEnvelope request.id envelope, s)

end FlashSale.Http
