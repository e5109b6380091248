import FlashSale.Text.Hex

/-! # The store of catalogues

    A store keeps the last value of each key and counts its changes by
    revisions.  It answers questions about one key and streams the changes of
    one key to those who watch it.  This module has the words that stores and
    their users share; the stores themselves are elsewhere. -/

namespace FlashSale

open Text

/-! ### What stores keep -/

/-- A key with its value and the revision of its last change. -/
structure KeyValue where
  key : String
  value : Bytes
  revision : Int64
  deriving Repr, DecidableEq

/-- One change of the store. -/
inductive Change where
  | put (kv : KeyValue)
  | delete (key : String) (revision : Int64)
  deriving Repr, DecidableEq

namespace Change

/-- The key that changed. -/
def key : Change → String
  | .put kv => kv.key
  | .delete key _ => key

/-- The revision of the change. -/
def revision : Change → Int64
  | .put kv => kv.revision
  | .delete _ revision => revision

end Change

/-- The answer to a question about a key: what is stored under it, and the
    revision of the whole store at that time. -/
structure Fetched where
  kv : Option KeyValue
  revision : Int64
  deriving Repr, DecidableEq

/-! ### What goes wrong -/

/-- What is wrong with an answer that arrived. -/
inductive Defect where
  /-- It is no document of the expected form. -/
  | unreadable
  | badKey
  | badValue
  | unknownEvent (type : String)
  /-- It says itself what is wrong. -/
  | reported (message : String)
  deriving Repr, DecidableEq

/-- The wording of a defect. -/
def Defect.detail : Defect → String
  | .unreadable => "malformed document"
  | .badKey => "bad key encoding"
  | .badValue => "bad value encoding"
  | .unknownEvent type => "unknown event type " ++ type
  | .reported message => message

/-- Why a store gave no answer, or why a stream ended. -/
inductive StoreError where
  /-- There is no endpoint to ask. -/
  | noEndpoints
  /-- The question could not be sent or the answer not be read. -/
  | transport (endpoint : String)
  /-- The answer is not one that a store gives. -/
  | protocol (endpoint : String) (defect : Defect)
  /-- The store has ended the watch. -/
  | canceled (reason : String)
  /-- Reading the stream failed. -/
  | broken (endpoint : String)
  /-- The stream came to its end. -/
  | closed
  deriving Repr, DecidableEq

/-- The wording of an error. -/
def StoreError.message : StoreError → String
  | .noEndpoints => "no endpoint configured"
  | .transport endpoint => "request to " ++ endpoint ++ " failed"
  | .protocol endpoint defect =>
    "malformed response from " ++ endpoint ++ ": " ++ defect.detail
  | .canceled reason => "watch canceled: " ++ reason
  | .broken endpoint => "watch stream from " ++ endpoint ++ " broke"
  | .closed => "watch stream closed"

/-- What comes over a stream: a change, or the error that ends it. -/
abbrev Message := Except StoreError Change

end FlashSale
