import FlashSale.Watcher
import Mathlib.Data.List.Basic

/-! # Runs of a watcher

    All that a store does shows to its watcher as occurrences.  A run is a list
    of occurrences each of which can come when it comes: a question is answered
    after it was put, and messages come over a stream that is followed.  Nothing
    is assumed about what the answers and the messages say.

    What a step can do is said once, by `Moves`; what holds of all runs follows
    from its cases. -/

namespace FlashSale

-- A watcher never compares occurrences, but what is stated of its runs does.
deriving instance DecidableEq for Occurrence

namespace Watcher

/-! ### What can happen -/

/-- Can the occurrence come now?  A signal can be given at any time, and is
    noticed only after that. -/
def admits (w : Watcher) (o : Occurrence) : Bool :=
  match w.phase, o with
  | _, .signal => true
  | .subscribing, .subscribed _ => true
  | .following, .received _ => true
  | .following, .noticed => w.signalled
  | .waiting, .rested => true
  | .rereading, .reread _ => true
  | _, _ => false

/-- The watcher after some occurrences, if they can come one after the other. -/
def run? (w : Watcher) : List Occurrence → Option Watcher
  | [] => some w
  | o :: rest => if w.admits o then (w.step o).run? rest else none

theorem run?_cons_eq_some {w w' : Watcher} {o : Occurrence} {rest : List Occurrence} :
    w.run? (o :: rest) = some w' ↔ w.admits o ∧ (w.step o).run? rest = some w' := by
  rw [run?, Option.ite_none_right_eq_some]

theorem run?_append {w : Watcher} {os more : List Occurrence} :
    w.run? (os ++ more) = (w.run? os).bind (run? · more) := by
  induction os generalizing w with
  | nil => rfl
  | cons o rest ih =>
    rw [List.cons_append, run?, run?]
    split
    · exact ih
    · rfl

/-- The last occurrence of a run comes to what the others have left. -/
theorem run?_concat_eq_some {w w' : Watcher} {os : List Occurrence} {o : Occurrence} :
    w.run? (os ++ [o]) = some w' ↔
      ∃ before, w.run? os = some before ∧ before.admits o ∧ before.step o = w' := by
  simp [run?_append, Option.bind_eq_some_iff, run?]

/-! ### What a step can do -/

/-- What an occurrence makes of a watcher. -/
inductive Moves (w : Watcher) : Occurrence → Watcher → Prop
  /-- It is told to stop. -/
  | signal : Moves w .signal { w with signalled := true }
  /-- It has got a stream. -/
  | subscribed (phase : w.phase = .subscribing) :
    Moves w (.subscribed (.ok ())) { w with failures := 0, phase := .following }
  /-- It has got no stream. -/
  | refused (e : StoreError) (phase : w.phase = .subscribing) :
    Moves w (.subscribed (.error e)) w.lose
  /-- It follows a change. -/
  | followed (change : Change) (phase : w.phase = .following) :
    Moves w (.received (.ok change)) (w.follow change)
  /-- It has lost its stream. -/
  | lost (e : StoreError) (phase : w.phase = .following) :
    Moves w (.received (.error e)) w.lose
  /-- It stops while it follows a stream. -/
  | noticed (phase : w.phase = .following) (signalled : w.signalled) :
    Moves w .noticed { w with phase := .stopped }
  /-- It stops while it waits. -/
  | interrupted (phase : w.phase = .waiting) (signalled : w.signalled) :
    Moves w .rested { w with phase := .stopped }
  /-- It has waited. -/
  | rested (phase : w.phase = .waiting) (undisturbed : w.signalled = false) :
    Moves w .rested { w with phase := .rereading }
  /-- It has read the key anew. -/
  | reread (f : Fetched) (phase : w.phase = .rereading) :
    Moves w (.reread (.ok f)) { w.refresh f with phase := .subscribing }
  /-- It has got no answer. -/
  | unread (e : StoreError) (phase : w.phase = .rereading) :
    Moves w (.reread (.error e)) w.lose

/-- The signal is only noted down, whatever the watcher is doing. -/
theorem step_signal (w : Watcher) : w.step .signal = { w with signalled := true } := by
  unfold step
  cases w.phase <;> rfl

theorem moves_of_admits {w : Watcher} {o : Occurrence} (h : w.admits o) :
    w.Moves o (w.step o) := by
  cases o with
  | signal =>
    rw [step_signal]
    exact .signal
  | subscribed answer =>
    have hphase : w.phase = .subscribing := by
      cases hphase : w.phase <;> simp [admits, hphase] at h ⊢
    cases answer with
    | ok => simpa [step, hphase] using Moves.subscribed hphase
    | error e => simpa [step, hphase] using Moves.refused e hphase
  | received message =>
    have hphase : w.phase = .following := by
      cases hphase : w.phase <;> simp [admits, hphase] at h ⊢
    cases message with
    | ok change => simpa [step, hphase] using Moves.followed change hphase
    | error e => simpa [step, hphase] using Moves.lost e hphase
  | reread answer =>
    have hphase : w.phase = .rereading := by
      cases hphase : w.phase <;> simp [admits, hphase] at h ⊢
    cases answer with
    | ok f => simpa [step, hphase] using Moves.reread f hphase
    | error e => simpa [step, hphase] using Moves.unread e hphase
  | rested =>
    have hphase : w.phase = .waiting := by
      cases hphase : w.phase <;> simp [admits, hphase] at h ⊢
    cases hsignalled : w.signalled with
    | true => simpa [step, hphase, hsignalled] using Moves.interrupted hphase hsignalled
    | false => simpa [step, hphase, hsignalled] using Moves.rested hphase hsignalled
  | noticed =>
    have hphase : w.phase = .following := by
      cases hphase : w.phase <;> simp [admits, hphase] at h ⊢
    have hsignalled : w.signalled := by simpa [admits, hphase] using h
    simpa [step, hphase, hsignalled] using Moves.noticed hphase hsignalled

/-! ### Losing a stream -/

theorem phase_lose (w : Watcher) : w.lose.phase = .waiting ∨ w.lose.phase = .gaveUp := by
  unfold lose
  split
  · exact .inr rfl
  · exact .inl rfl

theorem key_lose (w : Watcher) : w.lose.key = w.key := by
  unfold lose
  split <;> rfl

theorem catalogue_lose (w : Watcher) : w.lose.catalogue = w.catalogue := by
  unfold lose
  split <;> rfl

end Watcher

end FlashSale
