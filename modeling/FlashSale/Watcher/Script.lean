import FlashSale.Watcher

/-! # A watcher against scripted answers

    A script lays down in advance what the store answers: the values of the
    key, and the streams, each with the messages that come over it.  When the
    script is used up every question fails.  The run of a watcher against a
    script ends, since each attempt uses up a part of the script or one of the
    attempts that are left. -/

namespace FlashSale

/-- A stream in a script: its messages, and whether it stays open after
    them. -/
structure ScriptedStream where
  messages : List Message
  staysOpen : Bool
  deriving Repr

/-- The answers that are left. -/
structure Script where
  gets : List (Except StoreError Fetched)
  watches : List (Except StoreError ScriptedStream)
  deriving Repr

/-- A watcher in the middle of a script. -/
structure ScriptRun where
  watcher : Watcher
  script : Script
  /-- What is left of the stream that is followed. -/
  stream : List Message := []
  /-- How many streams were asked for. -/
  watchesMade : Nat := 0
  deriving Repr

/-- A question, and the revision served when it was put. -/
structure Observation where
  call : Call
  serving : Int64
  deriving Repr, DecidableEq

namespace ScriptRun

/-- The watcher has asked for a stream.  With `signalAt` the signal to stop
    comes while the question with that number is answered. -/
def answerWatch (signalAt : Option Nat) (r : ScriptRun) : ScriptRun :=
  let number := r.watchesMade + 1
  let w := if signalAt = some number then r.watcher.step .signal else r.watcher
  match r.script.watches with
  | [] =>
    { r with watcher := w.step (.subscribed (.error .closed)), watchesMade := number,
             stream := [] }
  | .error e :: rest =>
    { watcher := w.step (.subscribed (.error e)), watchesMade := number, stream := [],
      script := { r.script with watches := rest } }
  | .ok stream :: rest =>
    { watcher := w.step (.subscribed (.ok ())), watchesMade := number,
      stream := stream.messages ++ if stream.staysOpen then [] else [.error .closed],
      script := { r.script with watches := rest } }

/-- The watcher follows a stream.  A stream that stays open with nothing to
    come is the end of the script: the watcher is signalled to stop. -/
def deliver (r : ScriptRun) : ScriptRun :=
  if r.watcher.signalled then { r with watcher := r.watcher.step .noticed }
  else
    match r.stream with
    | [] => { r with watcher := (r.watcher.step .signal).step .noticed }
    | message :: rest => { r with watcher := r.watcher.step (.received message), stream := rest }

/-- The watcher has asked for the value of the key. -/
def answerGet (r : ScriptRun) : ScriptRun :=
  match r.script.gets with
  | [] => { r with watcher := r.watcher.step (.reread (.error .noEndpoints)) }
  | answer :: rest =>
    { r with watcher := r.watcher.step (.reread answer), script := { r.script with gets := rest } }

/-- One thing happens, unless the watcher has come to its end. -/
def advance? (signalAt : Option Nat) (r : ScriptRun) : Option ScriptRun :=
  match r.watcher.phase with
  | .subscribing => some (r.answerWatch signalAt)
  | .following => some r.deliver
  | .waiting => some { r with watcher := r.watcher.step .rested }
  | .rereading => some r.answerGet
  | .gaveUp | .stopped => none

/-- What is observed before the next thing happens. -/
def observation? (r : ScriptRun) : Option Observation :=
  r.watcher.call?.map fun call => { call, serving := r.watcher.catalogue.revision }

/-! ### The run ends -/

/-- How far a phase is from the next question for a stream. -/
def rank (r : ScriptRun) : Nat :=
  match r.watcher.phase with
  | .waiting => 3
  | .rereading => 2
  | .subscribing => 1
  | .following => r.stream.length + 1
  | .gaveUp | .stopped => 0

/-- The attempts that the watcher has left. -/
def attemptsLeft (r : ScriptRun) : Nat :=
  r.watcher.maxRetries.toNat + 1 - r.watcher.failures.toNat

/-- What a step makes smaller: the streams left, then the attempts left, then
    the way to the next question. -/
def left (r : ScriptRun) : Nat × Nat × Nat :=
  (r.script.watches.length, r.attemptsLeft, r.rank)

/-- The order in which `left` gets smaller. -/
def Before (p q : Nat × Nat × Nat) : Prop :=
  p.1 < q.1 ∨ p.1 = q.1 ∧ (p.2.1 < q.2.1 ∨ p.2.1 = q.2.1 ∧ p.2.2 < q.2.2)

/-- An attempt that fails uses up an attempt or ends the run, whether the signal
    has come or not. -/
theorem before_lose {r r' : ScriptRun} {w : Watcher} (hw : r'.watcher = w.lose)
    (hmax : w.maxRetries = r.watcher.maxRetries) (hfailures : w.failures = r.watcher.failures)
    (hrank : 0 < r.rank) (hscript : r'.script.watches.length ≤ r.script.watches.length) :
    Before r'.left r.left := by
  simp only [Before, left, attemptsLeft, rank] at *
  rw [hw, ← hmax, ← hfailures]
  rcases w.lose_cases with ⟨-, hlose⟩ | ⟨hroom, hcount, hlose⟩
  · rw [hlose]
    dsimp only
    omega
  · rw [hlose]
    dsimp only
    omega

/-- The answer to a request for a stream makes `left` smaller. -/
theorem before_answerWatch {signalAt : Option Nat} {r : ScriptRun}
    (hp : r.watcher.phase = .subscribing) : Before (r.answerWatch signalAt).left r.left := by
  have hrank : 0 < r.rank := by simp [rank, hp]
  unfold answerWatch
  split
  · -- The script is used up, so the attempt fails.
    dsimp only
    split
    · have hlose : (r.watcher.step .signal).step (.subscribed (.error .closed)) =
          ({ r.watcher with signalled := true } : Watcher).lose := by
        simp [Watcher.step, hp]
      exact before_lose hlose rfl rfl hrank (Nat.le_refl _)
    · exact before_lose (by simp [Watcher.step, hp]) rfl rfl hrank (Nat.le_refl _)
  · simp [Before, left, *]
  · simp [Before, left, *]

/-- The next message of a stream makes `left` smaller. -/
theorem before_deliver {r : ScriptRun} (hp : r.watcher.phase = .following) :
    Before r.deliver.left r.left := by
  unfold deliver
  split
  · simp [Before, left, attemptsLeft, rank, Watcher.step, *]
  · split
    · simp [Before, left, attemptsLeft, rank, hp, Watcher.step]
    · rename_i message rest hs
      cases message with
      | ok change => simp [Before, left, attemptsLeft, rank, hp, Watcher.step, Watcher.follow, hs]
      | error e =>
        exact before_lose (by simp [Watcher.step, hp]) rfl rfl (by simp [rank, hp]) (by simp)

/-- The answer to a question for the value makes `left` smaller. -/
theorem before_answerGet {r : ScriptRun} (hp : r.watcher.phase = .rereading) :
    Before r.answerGet.left r.left := by
  have hrank : 0 < r.rank := by simp [rank, hp]
  unfold answerGet
  split
  · exact before_lose (by simp [Watcher.step, hp]) rfl rfl hrank (by simp)
  · rename_i answer rest hs
    cases answer with
    | ok f => simp [Before, left, attemptsLeft, rank, hp, Watcher.step, Watcher.refresh]
    | error e =>
      exact before_lose (by simp [Watcher.step, hp]) rfl rfl hrank (by simp)

/-- Each step makes `left` smaller. -/
theorem before_advance? {signalAt : Option Nat} {r r' : ScriptRun}
    (h : r.advance? signalAt = some r') : Before r'.left r.left := by
  unfold advance? at h
  split at h
  · obtain rfl := Option.some.inj h
    exact before_answerWatch ‹_›
  · obtain rfl := Option.some.inj h
    exact before_deliver ‹_›
  · obtain rfl := Option.some.inj h
    rename_i hp
    by_cases hs : r.watcher.signalled <;>
      simp [Before, left, attemptsLeft, rank, hp, Watcher.step, hs]
  · obtain rfl := Option.some.inj h
    exact before_answerGet ‹_›
  · simp at h
  · simp at h

/-- Runs to the end.  The observations come in their order, and with them the
    watcher as it is then. -/
def run (signalAt : Option Nat) (r : ScriptRun) : List Observation × Watcher :=
  match _h : r.advance? signalAt with
  | none => (r.observation?.toList, r.watcher)
  | some r' =>
    let (observations, w) := run signalAt r'
    (r.observation?.toList ++ observations, w)
termination_by r.left
decreasing_by
  have step := before_advance? ‹_›
  simp only [Before] at step
  simp only [Prod.lex_def]
  exact step

end ScriptRun

end FlashSale
