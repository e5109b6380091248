import FlashSale.Answer.Reply
import FlashSale.Gateway.Launch
import FlashSale.Watcher.Session

/-! # Rehearsals

    A gateway is tried out against a store in memory: catalogues are published,
    users send requests, and the answers are read back as clients read them.
    Before each request the watcher has taken everything off its stream. -/

namespace FlashSale

open Text

/-- A gateway and its store. -/
structure Rehearsal where
  gateway : Gateway
  store : MemoryStore
  stream : Option Nat

namespace Rehearsal

/-- Why a rehearsal cannot go on. -/
inductive Fault where
  /-- The catalogue published at a revision is never served. -/
  | notServed (revision : Int64)
  deriving Repr, DecidableEq

/-- The wording of a fault. -/
def Fault.message : Fault → String
  | .notServed revision => "registry did not reach revision " ++ intText revision.toInt

/-- The settings of a rehearsal. -/
def settings (secret : String) (scheme : SignatureScheme) (limit : UInt32) : Settings :=
  { storeAddresses := "memory", storeTimeout := 1, secret, scheme, accessLimit := limit }

/-- The watched key. -/
def key (r : Rehearsal) : String :=
  r.gateway.watcher.key

/-- Lets the watcher do all that it can do now. -/
def settle (r : Rehearsal) : Rehearsal :=
  let session : WatchSession :=
    { store := r.store, watcher := r.gateway.watcher, stream := r.stream }
  let settled := session.settle session.stepsNeeded
  { gateway := { r.gateway with watcher := settled.watcher }, store := settled.store,
    stream := settled.stream }

/-- Starts a rehearsal; products given are stored before the launch. -/
def start (s : Settings) (products : Option (List Product)) : Except LaunchError Rehearsal :=
  let store : MemoryStore := {}
  let store := match products with
    | none => store
    | some products => store.put s.watchedKey (Product.writeList products)
  let (launched, store) :=
    Gateway.launch (m := StateM MemoryStore) (fun key store => store.get key) s store
  launched.map fun gateway => settle { gateway, store, stream := none }

/-- Stores a value under the watched key; the answer is its revision. -/
def put (r : Rehearsal) (value : Bytes) : Int64 × Rehearsal :=
  let store := r.store.put r.key value
  (store.revision, settle { r with store })

/-- Removes the watched key; the answer is the revision, if the key was
    there. -/
def delete (r : Rehearsal) : Option Int64 × Rehearsal :=
  match r.store.delete? r.key with
  | none => (none, r)
  | some store => (some store.revision, settle { r with store })

/-- Publishes products and waits until they are served; products that cannot be
    read back never are.  The answer is the revision. -/
def publish (r : Rehearsal) (products : List Product) : Except Fault Int64 × Rehearsal :=
  let (revision, r) := r.put (Product.writeList products)
  let served := decide (revision ≤ r.gateway.catalogue.revision)
  (if served then .ok revision else .error (.notServed revision), r)

/-- The signature of a user. -/
def sign (r : Rehearsal) (user : UInt64) : String :=
  r.gateway.authenticator.sign user

/-- Sends a request and reads the answer. -/
def send (r : Rehearsal) (request : Request) : Option Reply × Rehearsal :=
  let (envelope, gateway) := r.gateway.handle request
  (Reply.parse? envelope.body, { r with gateway })

/-- The request of a user who presents a signature. -/
def purchaseRequest (user : UInt64) (signature : String) (product : UInt64) (time : Int64) :
    Request :=
  { kind := .purchase
    query := [("product_id", natText product.toNat), ("src", "test"), ("authcode", "x"),
      ("time", intText time.toInt), ("nance", "n")]
    cookies := [("userId", natText user.toNat), ("userAuthSign", signature)]
    time
    id := .ofNat 0 }

/-- The question about one or all products. -/
def infoRequest (product : Option UInt64) (time : Int64) : Request :=
  { kind := .info
    query := product.toList.map fun id => ("product_id", natText id.toNat)
    cookies := []
    time
    id := .ofNat 0 }

end Rehearsal

end FlashSale
