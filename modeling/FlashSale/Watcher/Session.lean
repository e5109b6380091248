import FlashSale.Store.Memory
import FlashSale.Watcher

/-! # A watcher and the store it watches

    Here the questions of a watcher are answered by a store in memory.  The
    store changes on its own; the watcher takes its next step whenever it can,
    one message at a time. -/

namespace FlashSale

/-- A store, a watcher, and the number of the stream that the watcher follows
    or followed last. -/
structure WatchSession where
  store : MemoryStore
  watcher : Watcher
  stream : Option Nat := none
  deriving Repr

namespace WatchSession

/-- The messages that the watcher has not yet taken off its stream. -/
def pending (s : WatchSession) : List Message :=
  match s.stream.bind fun n => s.store.streams[n]? with
  | none => []
  | some stream => stream.pending

/-- The store answers the request for a stream. -/
def answerWatch (s : WatchSession) : WatchSession :=
  match s.store.watch s.watcher.key s.watcher.next with
  | (.ok n, store) =>
    { store, watcher := s.watcher.step (.subscribed (.ok ())), stream := some n }
  | (.error e, store) => { s with store, watcher := s.watcher.step (.subscribed (.error e)) }

/-- The store answers the question for the value. -/
def answerGet (s : WatchSession) : WatchSession :=
  let (answer, store) := s.store.get s.watcher.key
  { s with store, watcher := s.watcher.step (.reread answer) }

/-- The watcher takes the next message off its stream.  It lets go of a stream
    that it has lost. -/
def deliver? (s : WatchSession) : Option WatchSession :=
  match s.stream, s.pending with
  | some n, message :: _ =>
    let watcher := s.watcher.step (.received message)
    let update := if watcher.phase = .following then Subscription.takeOne
      else Subscription.release ∘ Subscription.takeOne
    some { s with store := s.store.updateStream n update, watcher }
  | _, _ => none

/-- The next step of the watcher, if it can take one. -/
def advance? (s : WatchSession) : Option WatchSession :=
  match s.watcher.phase with
  | .subscribing => some s.answerWatch
  | .following => s.deliver?
  | .waiting => some { s with watcher := s.watcher.step .rested }
  | .rereading => some s.answerGet
  | .gaveUp | .stopped => none

/-- Takes steps until there is none to take, but no more than `bound`. -/
def settle : Nat → WatchSession → WatchSession
  | 0, s => s
  | bound + 1, s =>
    match s.advance? with
    | none => s
    | some s => settle bound s

/-- As many steps as can be needed while the store stands still and is online:
    to come back to a stream, and to take all messages off it. -/
def stepsNeeded (s : WatchSession) : Nat :=
  s.store.history.length + s.pending.length + 5

end WatchSession

end FlashSale
