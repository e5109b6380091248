import FlashSale.Gateway
import FlashSale.Settings.Basic

/-! # Launching a gateway

    A gateway is launched from settings that stand the check, an authenticator
    that can be made from them, and one answer of the store.  What is stored need
    not be readable, but the store has to answer. -/

namespace FlashSale

/-- Why a gateway is not launched. -/
inductive LaunchError where
  | settings (fault : Settings.Fault)
  | secret (fault : UnusableSecret)
  | store (error : StoreError)
  deriving Repr, DecidableEq

/-- The wording of an error. -/
def LaunchError.message : LaunchError → String
  | .settings fault => fault.message
  | .secret fault => fault.message
  | .store error => "cannot bootstrap products: " ++ error.message

namespace Gateway

/-- The gateway that starts with the answer of the store. -/
def ofFetched (s : Settings) (authenticator : Authenticator) (f : Fetched) : Gateway :=
  { authenticator
    limiter := .ofLimit s.accessLimit
    watcher := .start s.watchedKey s.maxRetries f.revision (Catalogue.initial.refresh f) }

/-- Launches a gateway.  The store is asked once, through `get`, and only if
    the settings can be used and so can the secret. -/
def launch {m : Type → Type} [Monad m] (get : String → m (Except StoreError Fetched))
    (s : Settings) : m (Except LaunchError Gateway) :=
  match s.check with
  | .error fault => pure (.error (.settings fault))
  | .ok () =>
    match Authenticator.create s.secret s.scheme with
    | .error fault => pure (.error (.secret fault))
    | .ok authenticator => do
      let answer ← get s.watchedKey
      return (answer.mapError .store).map (ofFetched s authenticator)

end Gateway

end FlashSale
