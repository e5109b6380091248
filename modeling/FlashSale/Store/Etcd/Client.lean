import FlashSale.Http.Exchange
import FlashSale.Json.Writer
import FlashSale.Store.Etcd.Stream

/-! # Asking etcd

    The client knows several endpoints and asks them in their order until one
    gives an answer that it can use; if none does, the error of the last one
    counts. -/

namespace FlashSale.Etcd

open Text

/-! ### Endpoints -/

/-- The address of an endpoint: without white space around it and slashes at
    its end, and with a scheme. -/
def endpointUrl (text : String) : String :=
  let cs := dropEndWhile (· == '/') (trim text.toList)
  if "http://".toList.isPrefixOf cs || "https://".toList.isPrefixOf cs then String.ofList cs
  else "http://" ++ String.ofList cs

/-! ### Requests -/

/-- A document sent to an endpoint. -/
structure Request where
  endpoint : String
  path : String
  body : Json
  deriving Repr

/-- The web address that a request goes to.  A request without one cannot be
    sent. -/
def Request.url? (r : Request) : Option Http.Url :=
  Http.Url.parse? (r.endpoint ++ r.path)

/-- A text in base64. -/
def inBase64 (s : String) : Json :=
  .ofString (String.ofList (Base64.encode (bytesOf s)))

/-- Asks for the value of a key. -/
def rangeRequest (key endpoint : String) : Request :=
  { endpoint, path := "/v3/kv/range", body := .ofMembers [("key", inBase64 key)] }

/-- Asks for the changes of a key from a revision on. -/
def watchRequest (key : String) (start : Int64) (endpoint : String) : Request :=
  { endpoint, path := "/v3/watch",
    body := .ofMembers [("create_request", .ofMembers [
      ("key", inBase64 key),
      ("start_revision", .ofInt start.toInt),
      ("progress_notify", .bool true)])] }

/-! ### Responses -/

/-- What becomes of a request; there may be no response. -/
abbrev Network := Request → Option Http.Received

/-- What a request and the redirections after it send, and what comes of them;
    `answer` tells what the servers do. -/
def Request.exchange (proxies : Http.Proxies) (answer : Http.Sent → Option Http.Received)
    (r : Request) : Option Http.Received × List Http.Sent :=
  match r.url? with
  | none => (none, [])
  | some url => Http.Sent.exchange answer { url, proxies }

/-- The network in which servers do what `answer` tells. -/
def networkOf (proxies : Http.Proxies) (answer : Http.Sent → Option Http.Received) : Network :=
  fun request => (request.exchange proxies answer).1

/-- Sends a request and refuses a response that is none or tells of an error. -/
def send (network : Network) (request : Request) : Except StoreError Http.Received :=
  match network request with
  | none => .error (.transport request.endpoint)
  | some r => if r.isError then .error (.transport request.endpoint) else .ok r

/-! ### Failover -/

/-- Tries endpoints until one succeeds.  The second part lists those that were
    tried; `last` is the error so far. -/
def firstSuccess {α : Type} (attempt : String → Except StoreError α) :
    StoreError → List String → Except StoreError α × List String
  | last, [] => (.error last, [])
  | _, endpoint :: rest =>
    match attempt endpoint with
    | .ok a => (.ok a, [endpoint])
    | .error e =>
      let (result, tried) := firstSuccess attempt e rest
      (result, endpoint :: tried)

/-- A client: its endpoints, at least one of them. -/
structure Client where
  endpoints : List String
  deriving Repr, DecidableEq

namespace Client

/-- The client of some endpoints. -/
def ofEndpoints (endpoints : List String) : Except StoreError Client :=
  if endpoints.isEmpty then .error .noEndpoints
  else .ok { endpoints := endpoints.map endpointUrl }

/-- Asks one endpoint for the value of a key. -/
def getFrom (network : Network) (key endpoint : String) : Except StoreError Fetched :=
  match send network (rangeRequest key endpoint) with
  | .error e => .error e
  | .ok r =>
    if r.complete then (RangeAnswer.read r.body).mapError (.protocol endpoint)
    else .error (.transport endpoint)

/-- Asks for the value of a key.  The requests that were made come with the
    answer. -/
def get (c : Client) (network : Network) (key : String) :
    Except StoreError Fetched × List Request :=
  let (result, tried) := firstSuccess (getFrom network key) .noEndpoints c.endpoints
  (result, tried.map (rangeRequest key))

/-- Asks one endpoint for the changes of a key. -/
def watchFrom (network : Network) (key : String) (start : Int64) (endpoint : String) :
    Except StoreError (List Message) :=
  (send network (watchRequest key start endpoint)).map fun r =>
    messagesOf endpoint r.complete r.body

/-- Asks for the changes of a key.  The first endpoint that responds without an
    error is kept, whatever its stream says then. -/
def watch (c : Client) (network : Network) (key : String) (start : Int64) :
    Except StoreError (List Message) × List Request :=
  let (result, tried) :=
    firstSuccess (watchFrom network key start) .noEndpoints c.endpoints
  (result, tried.map (watchRequest key start))

end Client

end FlashSale.Etcd
