import FlashSale.Store.Basic

/-! # A store in memory

    The store keeps its whole history, so whoever starts to watch at an earlier
    revision is first sent what was missed.  Its streams can be broken on
    purpose, and it can be put offline.

    For each stream the store remembers everything it has sent, and how much of
    that was taken off again. -/

namespace FlashSale

open Text

/-- A stream of the changes of one key. -/
structure Subscription where
  key : String
  /-- All messages that were ever sent. -/
  sent : List Message
  /-- How many of them were taken. -/
  taken : Nat
  /-- Will further changes be sent? -/
  attached : Bool
  /-- Does somebody still hold the other end? -/
  held : Bool
  deriving Repr

namespace Subscription

/-- The messages that can be taken now. -/
def pending (s : Subscription) : List Message :=
  s.sent.drop s.taken

/-- Sends a change, if it concerns the stream.  A stream that nobody holds is
    detached at that moment. -/
def offer (change : Change) (s : Subscription) : Subscription :=
  if s.attached && s.key == change.key then
    if s.held then { s with sent := s.sent ++ [.ok change] } else { s with attached := false }
  else s

/-- Breaks the stream, with an error as the last thing sent. -/
def disconnect (s : Subscription) : Subscription :=
  if s.attached then
    { s with attached := false, sent := if s.held then s.sent ++ [.error .closed] else s.sent }
  else s

/-- Takes the next message. -/
def takeOne (s : Subscription) : Subscription :=
  { s with taken := min (s.taken + 1) s.sent.length }

/-- Takes all messages. -/
def takeAll (s : Subscription) : Subscription :=
  { s with taken := s.sent.length }

/-- Lets go of the stream. -/
def release (s : Subscription) : Subscription :=
  { s with held := false }

end Subscription

/-- The store: what it keeps, everything that happened, and its streams in the
    order in which they were opened. -/
structure MemoryStore where
  revision : Int64 := 0
  entries : List KeyValue := []
  history : List Change := []
  streams : List Subscription := []
  offline : Bool := false
  /-- How many questions were answered. -/
  gets : Nat := 0
  deriving Repr

namespace MemoryStore

/-- What is stored under a key. -/
def find? (s : MemoryStore) (key : String) : Option KeyValue :=
  s.entries.find? fun kv => kv.key == key

/-- The entries under other keys. -/
def without (s : MemoryStore) (key : String) : List KeyValue :=
  s.entries.filter fun kv => kv.key != key

/-- Records a change and sends it to those who watch its key. -/
def publish (s : MemoryStore) (change : Change) : MemoryStore :=
  { s with history := s.history ++ [change], streams := s.streams.map (·.offer change) }

/-- Stores a value under a key; the revision counts one up. -/
def put (s : MemoryStore) (key : String) (value : Bytes) : MemoryStore :=
  let kv : KeyValue := { key, value, revision := s.revision + 1 }
  { s with revision := kv.revision, entries := kv :: s.without key }.publish (.put kv)

/-- Removes a key.  If there is nothing to remove, nothing happens. -/
def delete? (s : MemoryStore) (key : String) : Option MemoryStore :=
  if (s.find? key).isSome then
    let revision := s.revision + 1
    some ({ s with revision, entries := s.without key }.publish (.delete key revision))
  else none

/-- Breaks every stream. -/
def disconnect (s : MemoryStore) : MemoryStore :=
  { s with streams := s.streams.map Subscription.disconnect }

/-- Puts the store offline, which breaks every stream, or online again. -/
def setOffline (s : MemoryStore) (offline : Bool) : MemoryStore :=
  let s := { s with offline }
  if offline then s.disconnect else s

/-- The error of every question to a store that is offline. -/
def offlineError : StoreError :=
  .protocol "memory" (.reported "store is offline")

/-- Answers a question about a key. -/
def get (s : MemoryStore) (key : String) : Except StoreError Fetched × MemoryStore :=
  if s.offline then (.error offlineError, s)
  else (.ok { kv := s.find? key, revision := s.revision }, { s with gets := s.gets + 1 })

/-- The changes of a key from a revision on. -/
def changesSince (s : MemoryStore) (key : String) (start : Int64) : List Change :=
  s.history.filter fun change => change.key == key && decide (start ≤ change.revision)

/-- Opens a stream of the changes of a key from a revision on; the answer is
    its number. -/
def watch (s : MemoryStore) (key : String) (start : Int64) :
    Except StoreError Nat × MemoryStore :=
  if s.offline then (.error offlineError, s)
  else
    let stream : Subscription :=
      { key, sent := (s.changesSince key start).map .ok, taken := 0, attached := true,
        held := true }
    (.ok s.streams.length, { s with streams := s.streams ++ [stream] })

/-- Changes the stream with a number. -/
def updateStream (s : MemoryStore) (n : Nat) (f : Subscription → Subscription) : MemoryStore :=
  { s with streams := s.streams.modify n f }

/-- How many streams are sent further changes. -/
def watchers (s : MemoryStore) : Nat :=
  s.streams.countP (·.attached)

end MemoryStore

end FlashSale
