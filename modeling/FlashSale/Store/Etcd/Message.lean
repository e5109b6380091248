import FlashSale.Json.Decode
import FlashSale.Json.Reader
import FlashSale.Store.Basic
import FlashSale.Text.Base64

/-! # The documents of an etcd gateway

    An etcd gateway speaks JSON.  Keys and values are in base64, integers of 64
    bits may be numbers or texts, and what equals its default may be left out.
    A document is read whole: if any of its events cannot be read, none is. -/

namespace FlashSale.Etcd

open Text

/-! ### Parts of documents -/

/-- A key with its value as it is sent. -/
structure SentKeyValue where
  key : String
  value : String
  modRevision : Int64
  deriving Repr, DecidableEq

/-- An integer of 64 bits, as a number or as a text. -/
def integer? : Json → Option Int64
  | .string content => (Json.pieceText? content).bind fun s => (readInt64 s.toList).toOption
  | v => Json.int64? v

namespace SentKeyValue

/-- The names of the fields. -/
def shape : Json.Shape :=
  { names := ["key", "value", "mod_revision"], atLeast := 1 }

/-- Reads a key with its value. -/
def ofJson? (v : Json) : Option SentKeyValue := do
  let fields ← Json.fields? shape v
  let key ← fields.required? "key" Json.string?
  let value ← fields.orDefault? "value" Json.string? ""
  let modRevision ← fields.orDefault? "mod_revision" integer? 0
  return { key, value, modRevision }

/-- Takes key and value out of their base64.  A key is text; what is not UTF-8
    in it is read as U+FFFD. -/
def decode (kv : SentKeyValue) : Except Defect KeyValue :=
  match Base64.decode? kv.key.toList with
  | none => .error .badKey
  | some key =>
    match Base64.decode? kv.value.toList with
    | none => .error .badValue
    | some value =>
      .ok { key := String.ofList (utf8DecodeLossy key), value, revision := kv.modRevision }

end SentKeyValue

/-! ### The answer to a question -/

/-- Reads the header of an answer, which tells the revision of the store. -/
def headerRevision? (v : Json) : Option Int64 := do
  let fields ← Json.fields? { names := ["revision"], atLeast := 0 } v
  fields.orDefault? "revision" integer? 0

/-- The answer to a question about a key: the revision of the store, if it is
    told, and what was found. -/
structure RangeAnswer where
  revision : Option Int64
  kvs : List SentKeyValue
  deriving Repr, DecidableEq

namespace RangeAnswer

/-- Reads an answer. -/
def ofJson? (v : Json) : Option RangeAnswer := do
  let fields ← Json.fields? { names := ["header", "kvs"], atLeast := 1 } v
  let revision ← fields.orDefault? "header" (Json.nullable? headerRevision?) none
  let kvs ← fields.orDefault? "kvs" (Json.list? SentKeyValue.ofJson?) []
  return { revision, kvs }

/-- What the answer says about the key that was asked for: its first pair
    counts. -/
def fetched (a : RangeAnswer) : Except Defect Fetched :=
  match a.kvs with
  | [] => .ok { kv := none, revision := a.revision.getD 0 }
  | first :: _ => first.decode.map fun kv => { kv := some kv, revision := a.revision.getD 0 }

/-- Reads the text of an answer. -/
def read (text : Bytes) : Except Defect Fetched :=
  match (Json.parse? text).bind ofJson? with
  | none => .error .unreadable
  | some answer => answer.fetched

end RangeAnswer

/-! ### The frames of a watch -/

/-- One event as it is sent. -/
structure SentEvent where
  type : Option String
  kv : SentKeyValue
  deriving Repr, DecidableEq

namespace SentEvent

/-- Reads an event. -/
def ofJson? (v : Json) : Option SentEvent := do
  let fields ← Json.fields? { names := ["type", "kv"], atLeast := 2 } v
  let type ← fields.orDefault? "type" (Json.nullable? Json.string?) none
  let kv ← fields.required? "kv" SentKeyValue.ofJson?
  return { type, kv }

/-- The change that an event tells of.  An event without a type is a put. -/
def decode (e : SentEvent) : Except Defect Change :=
  match e.kv.decode with
  | .error defect => .error defect
  | .ok kv =>
    match e.type with
    | none => .ok (.put kv)
    | some type =>
      if type = "PUT" then .ok (.put kv)
      else if type = "DELETE" then .ok (.delete kv.key kv.revision)
      else .error (.unknownEvent type)

end SentEvent

/-- What a frame is about: events, or the end of the watch. -/
structure WatchResult where
  canceled : Bool
  reason : String
  events : List SentEvent
  deriving Repr, DecidableEq

namespace WatchResult

/-- Reads the result in a frame. -/
def ofJson? (v : Json) : Option WatchResult := do
  let fields ← Json.fields? { names := ["canceled", "cancel_reason", "events"], atLeast := 0 } v
  let canceled ← fields.orDefault? "canceled" Json.bool? false
  let reason ← fields.orDefault? "cancel_reason" Json.string? ""
  let events ← fields.orDefault? "events" (Json.list? SentEvent.ofJson?) []
  return { canceled, reason, events }

end WatchResult

/-- Reads the message of an error. -/
def errorMessage? (v : Json) : Option String := do
  let fields ← Json.fields? { names := ["message"], atLeast := 0 } v
  fields.orDefault? "message" Json.string? ""

/-- One frame of a watch. -/
structure Frame where
  result : Option WatchResult
  error : Option String
  deriving Repr, DecidableEq

namespace Frame

/-- Reads a frame. -/
def ofJson? (v : Json) : Option Frame := do
  let fields ← Json.fields? { names := ["result", "error"], atLeast := 2 } v
  let result ← fields.orDefault? "result" (Json.nullable? WatchResult.ofJson?) none
  let error ← fields.orDefault? "error" (Json.nullable? errorMessage?) none
  return { result, error }

/-- The changes that a frame tells of.  An error in the frame counts before its
    result, and a canceled result has no changes. -/
def changes (endpoint : String) (f : Frame) : Except StoreError (List Change) :=
  match f.error with
  | some message => .error (.protocol endpoint (.reported message))
  | none =>
    match f.result with
    | none => .ok []
    | some result =>
      if result.canceled then .error (.canceled result.reason)
      else (result.events.mapM SentEvent.decode).mapError (.protocol endpoint)

end Frame

end FlashSale.Etcd
