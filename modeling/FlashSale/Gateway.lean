import FlashSale.Gateway.Request
import FlashSale.RateLimit
import FlashSale.Verdict
import FlashSale.Watcher

/-! # The gateway

    The gateway decides who may go on to buy.  A purchase is read and its user
    authenticated first, then the attempt is counted, and only then is the
    product looked up; so nobody can use up the attempts of somebody else, and
    whoever asks too often learns nothing about the products. -/

namespace FlashSale

/-- A running gateway. -/
structure Gateway where
  authenticator : Authenticator
  limiter : RateLimiter
  /-- The watcher, which keeps the catalogue. -/
  watcher : Watcher
  deriving DecidableEq

namespace Gateway

/-- The catalogue that is served now. -/
def catalogue (g : Gateway) : Catalogue :=
  g.watcher.catalogue

/-- The answer to a purchase that was counted and may go on. -/
def verdict (c : Catalogue) (product : UInt64) (time : Int64) : Envelope :=
  match c.find? product with
  | none => Refusal.unknownProduct.envelope
  | some p =>
    let v := p.verdictAt time
    .status v.code v.status

/-- Decides on a purchase.  An attempt is counted once its user is
    authenticated. -/
def purchase (g : Gateway) (r : Request) : Envelope × Gateway :=
  match r.purchase g.authenticator with
  | .error refusal => (refusal.envelope, g)
  | .ok p =>
    let (decision, limiter) := g.limiter.observe p.user r.time
    let answer :=
      match decision with
      | .throttle => Refusal.busy.envelope
      | .accept => verdict g.catalogue p.product r.time
    (answer, { g with limiter })

/-- Tells the state of one product, or of all in the order of their ids. -/
def tell (g : Gateway) (r : Request) : Envelope :=
  match r.product? with
  | none => .list (g.catalogue.products.map fun p => p.offerAt r.time)
  | some (.error refusal) => refusal.envelope
  | some (.ok id) =>
    match g.catalogue.find? id with
    | none => Refusal.unknownProduct.envelope
    | some p => .item (p.offerAt r.time)

/-- Answers a request. -/
def handle (g : Gateway) (r : Request) : Envelope × Gateway :=
  match r.kind with
  | .purchase => g.purchase r
  | .info => (g.tell r, g)

/-- Something happens to the watcher. -/
def observe (g : Gateway) (o : Occurrence) : Gateway :=
  { g with watcher := g.watcher.step o }

end Gateway

end FlashSale
