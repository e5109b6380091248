import FlashSale.Catalogue.Update

/-! # The watcher

    The watcher keeps the catalogue up to date.  It subscribes to the changes of
    one key and follows them; when the stream is lost it waits a while, reads
    the key anew so that nothing is missed, and subscribes again from there.
    After too many attempts in a row without a stream it gives up.

    It is a machine: `call?` is the question that it has put to the store, and
    `step` what it does when something happens.  A signal to stop is noticed
    only while it follows a stream or waits. -/

namespace FlashSale

/-! ### State -/

/-- What the watcher is doing. -/
inductive Phase where
  /-- It asks for the stream. -/
  | subscribing
  /-- It takes messages off the stream. -/
  | following
  /-- It waits before the next attempt. -/
  | waiting
  /-- It asks for the value of the key. -/
  | rereading
  /-- It has given up. -/
  | gaveUp
  /-- It was told to stop. -/
  | stopped
  deriving Repr, DecidableEq

/-- A question put to a store. -/
inductive Call where
  | get (key : String)
  | watch (key : String) (start : Int64)
  deriving Repr, DecidableEq

/-- The watcher and the catalogue that it keeps. -/
structure Watcher where
  key : String
  /-- How many attempts it makes without getting a stream. -/
  maxRetries : UInt32
  /-- What is served. -/
  catalogue : Catalogue := .initial
  /-- The revision from which the next stream starts. -/
  next : Int64
  /-- The attempts since the last stream was got. -/
  failures : UInt32 := 0
  /-- Was it signalled to stop? -/
  signalled : Bool := false
  phase : Phase := .subscribing
  deriving Repr, DecidableEq

/-! ### Steps -/

/-- What may happen to a watcher. -/
inductive Occurrence where
  /-- The store answers the request for a stream. -/
  | subscribed (answer : Except StoreError Unit)
  /-- A message comes over the stream. -/
  | received (message : Message)
  /-- The store answers the question for the value. -/
  | reread (answer : Except StoreError Fetched)
  /-- The time to wait is over. -/
  | rested
  /-- It is signalled to stop. -/
  | signal
  /-- It notices the signal while it follows a stream. -/
  | noticed
  deriving Repr

namespace Watcher

/-- A watcher that starts after a revision, with the catalogue served so far. -/
def start (key : String) (maxRetries : UInt32) (revision : Int64) (catalogue : Catalogue) :
    Watcher :=
  { key, maxRetries, catalogue, next := revision + 1 }

/-- The question that the watcher has put to the store. -/
def call? (w : Watcher) : Option Call :=
  match w.phase with
  | .subscribing => some (.watch w.key w.next)
  | .rereading => some (.get w.key)
  | .following | .waiting | .gaveUp | .stopped => none

/-- An attempt has failed, or a stream was lost.  The attempts are held against
    the limit before one more is counted, so their number stays within it. -/
def lose (w : Watcher) : Watcher :=
  if w.maxRetries ≤ w.failures then { w with phase := .gaveUp }
  else { w with failures := w.failures + 1, phase := .waiting }

/-- The watcher gives up, or it counts one more attempt, and then there is room
    for it below the limit. -/
theorem lose_cases (w : Watcher) :
    (w.maxRetries.toNat ≤ w.failures.toNat ∧ w.lose = { w with phase := .gaveUp }) ∨
      (w.failures.toNat < w.maxRetries.toNat ∧
        (w.failures + 1).toNat = w.failures.toNat + 1 ∧
        w.lose = { w with failures := w.failures + 1, phase := .waiting }) := by
  unfold lose
  split
  · next hmost => exact .inl ⟨UInt32.le_iff_toNat_le.mp hmost, rfl⟩
  · next hmost =>
    rw [UInt32.le_iff_toNat_le, Nat.not_le] at hmost
    have hmax := w.maxRetries.toNat_lt
    have hcount : (w.failures + 1).toNat = w.failures.toNat + 1 := by
      rw [UInt32.toNat_add, UInt32.toNat_one, Nat.mod_eq_of_lt (by omega)]
    exact .inr ⟨hmost, hcount, rfl⟩

/-- Follows one change; the next stream starts behind it. -/
def follow (w : Watcher) (change : Change) : Watcher :=
  let behind := change.revision + 1
  { w with
    next := if w.next < behind then behind else w.next
    catalogue := w.catalogue.follow w.key change }

/-- Takes over the value of the key; the next stream starts behind it. -/
def refresh (w : Watcher) (f : Fetched) : Watcher :=
  { w with next := f.revision + 1, catalogue := w.catalogue.refresh f }

/-- What the watcher does when something happens.  What cannot happen in its
    phase has no effect. -/
def step (w : Watcher) (o : Occurrence) : Watcher :=
  match w.phase, o with
  | _, .signal => { w with signalled := true }
  | .subscribing, .subscribed (.ok _) => { w with failures := 0, phase := .following }
  | .subscribing, .subscribed (.error _) => w.lose
  | .following, .received (.ok change) => w.follow change
  | .following, .received (.error _) => w.lose
  | .following, .noticed => if w.signalled then { w with phase := .stopped } else w
  | .waiting, .rested => { w with phase := if w.signalled then .stopped else .rereading }
  | .rereading, .reread (.ok f) => { w.refresh f with phase := .subscribing }
  | .rereading, .reread (.error _) => w.lose
  | _, _ => w

end Watcher

end FlashSale
