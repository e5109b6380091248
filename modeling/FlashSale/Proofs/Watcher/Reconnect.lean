import FlashSale.Proofs.Watcher.Exchanges
import FlashSale.Watcher.Script

/-! # Getting back to a stream

    Here a store answers from two endless lists, one for each kind of question.
    The watcher asks by the rule of `Exchange.next` for as long as it gets a
    stream now and then; if the store brings only finitely many streams and all
    of them end, it gives up at some time. -/

namespace FlashSale

/-! ### Stores that answer -/

/-- The messages of a stream; one that does not stay open ends with an
    error. -/
def ScriptedStream.sent (s : ScriptedStream) : List Message :=
  s.messages ++ if s.staysOpen then [] else [.error .closed]

/-- Does the stream come to an end? -/
def ScriptedStream.Ends (s : ScriptedStream) : Prop :=
  ∃ e, .error e ∈ s.sent

/-- All that a store is going to answer, by the number of the question. -/
structure Answers where
  gets : Nat → Except StoreError Fetched
  watches : Nat → Except StoreError ScriptedStream

/-- A watcher in the middle of the answers. -/
structure Answered where
  watcher : Watcher
  /-- What is left of the stream that is followed. -/
  stream : List Message := []
  /-- How often the key was read. -/
  gets : Nat := 0
  /-- How often a stream was asked for. -/
  watches : Nat := 0

namespace Answers

/-- What happens next. -/
def next? (a : Answers) (p : Answered) : Option Occurrence :=
  match p.watcher.phase with
  | .subscribing => some (.subscribed ((a.watches p.watches).map fun _ => ()))
  | .following => p.stream.head?.map .received
  | .waiting => some .rested
  | .rereading => some (.reread (a.gets p.gets))
  | .gaveUp | .stopped => none

/-- The stream that a question for one brings; nothing comes over none. -/
def streamAt (a : Answers) (n : Nat) : List Message :=
  match a.watches n with
  | .ok s => s.sent
  | .error _ => []

/-- Uses up the answer that something was. -/
def after (a : Answers) (p : Answered) (o : Occurrence) : Answered :=
  let watcher := p.watcher.step o
  match o with
  | .subscribed _ => { p with watcher, stream := a.streamAt p.watches, watches := p.watches + 1 }
  | .received _ => { p with watcher, stream := p.stream.tail }
  | .reread _ => { p with watcher, gets := p.gets + 1 }
  | _ => { p with watcher }

/-- What happens first, up to a number of occurrences. -/
def occurrences (a : Answers) (p : Answered) : Nat → List Occurrence
  | 0 => []
  | n + 1 =>
    match a.next? p with
    | none => []
    | some o => o :: a.occurrences (a.after p o) n

variable {a : Answers} {p : Answered}

@[simp] theorem after_watcher (p : Answered) (o : Occurrence) :
    (a.after p o).watcher = p.watcher.step o := by
  cases o <;> rfl

/-- Only what can happen does. -/
theorem admits_of_next? {o : Occurrence} (h : a.next? p = some o) :
    p.watcher.admits o ∧ o ≠ .signal := by
  unfold next? at h
  unfold Watcher.admits
  cases hphase : p.watcher.phase with
  | following =>
    rw [hphase] at h
    obtain ⟨message, -, rfl⟩ := Option.map_eq_some_iff.mp h
    simp
  | gaveUp | stopped => simp [hphase] at h
  | _ =>
    rw [hphase] at h
    obtain rfl := Option.some.inj h
    simp

/-- The answers of a store make a run without a signal. -/
theorem run?_occurrences (a : Answers) (p : Answered) (n : Nat) :
    (∃ w, p.watcher.run? (a.occurrences p n) = some w) ∧ .signal ∉ a.occurrences p n := by
  induction n generalizing p with
  | zero => exact ⟨⟨p.watcher, rfl⟩, List.not_mem_nil⟩
  | succ n ih =>
    unfold occurrences
    cases hnext : a.next? p with
    | none => exact ⟨⟨p.watcher, rfl⟩, List.not_mem_nil⟩
    | some o =>
      obtain ⟨hadmits, hsignal⟩ := admits_of_next? hnext
      obtain ⟨⟨w, hw⟩, hrest⟩ := ih (a.after p o)
      rw [after_watcher] at hw
      refine ⟨⟨w, Watcher.run?_cons_eq_some.mpr ⟨hadmits, hw⟩⟩, ?_⟩
      simp [hrest, Ne.symm hsignal]

/-! ### Giving up in the end -/

/-- A watcher that goes on: it was not told to stop, and a stream that it
    follows comes to an end. -/
structure GoesOn (p : Answered) : Prop where
  quiet : p.watcher.signalled = false
  running : p.watcher.phase ≠ .stopped
  ends : p.watcher.phase = .following → ∃ e, .error e ∈ p.stream

/-- How far a watcher is from the next question for a stream. -/
def rank (p : Answered) : Nat :=
  match p.watcher.phase with
  | .waiting => 3
  | .rereading => 2
  | .subscribing => 1
  | .following => p.stream.length
  | .gaveUp | .stopped => 0

/-- What gets smaller, if there are no streams from some question on: the
    questions before that, then the attempts that are left, then the way to the
    next question. -/
def left (bound : Nat) (p : Answered) : Nat × Nat × Nat :=
  (bound - p.watches, p.watcher.maxRetries.toNat + 1 - p.watcher.failures.toNat, rank p)

/-- There is always something next, unless the watcher has given up. -/
theorem GoesOn.gaveUp_of_next? (h : GoesOn p) (hnext : a.next? p = none) :
    p.watcher.phase = .gaveUp := by
  unfold next? at hnext
  cases hphase : p.watcher.phase with
  | gaveUp => rfl
  | stopped => exact absurd hphase h.running
  | following =>
    obtain ⟨e, he⟩ := h.ends hphase
    rw [hphase] at hnext
    simp only [Option.map_eq_none_iff, List.head?_eq_none_iff] at hnext
    simp [hnext] at he
  | _ => simp [hphase] at hnext

/-- A failure uses up an attempt, or is the last one. -/
theorem GoesOn.lose {bound : Nat} {p' : Answered} (h : GoesOn p) (hrank : 0 < rank p)
    (hwatches : p.watches ≤ p'.watches) (hw : p'.watcher = p.watcher.lose) :
    GoesOn p' ∧ ScriptRun.Before (left bound p') (left bound p) := by
  simp only [ScriptRun.Before, left] at *
  rcases p.watcher.lose_cases with ⟨-, hlose⟩ | ⟨hroom, hcount, hlose⟩
  · rw [hlose] at hw
    have hgaveUp : p'.watcher.phase = .gaveUp := by rw [hw]
    refine ⟨⟨by rw [hw]; exact h.quiet, by simp [hgaveUp], by simp [hgaveUp]⟩, ?_⟩
    have hnone : rank p' = 0 := by simp [rank, hgaveUp]
    rw [hw, hnone]
    dsimp only
    omega
  · rw [hlose] at hw
    have hwaiting : p'.watcher.phase = .waiting := by rw [hw]
    refine ⟨⟨by rw [hw]; exact h.quiet, by simp [hwaiting], by simp [hwaiting]⟩, ?_⟩
    rw [hw]
    dsimp only
    omega

/-- After the next occurrence the watcher goes on, and less is left. -/
theorem GoesOn.after {bound : Nat} (hfew : ∀ n, bound ≤ n → ∀ s, a.watches n ≠ .ok s)
    (hends : ∀ n s, a.watches n = .ok s → s.Ends) (h : GoesOn p) {o : Occurrence}
    (hnext : a.next? p = some o) :
    GoesOn (a.after p o) ∧ ScriptRun.Before (left bound (a.after p o)) (left bound p) := by
  unfold next? at hnext
  cases hphase : p.watcher.phase with
  | gaveUp | stopped => simp [hphase] at hnext
  | subscribing =>
    rw [hphase] at hnext
    obtain rfl := Option.some.inj hnext
    cases hwatch : a.watches p.watches with
    | error e =>
      exact h.lose (by simp [rank, hphase]) (Nat.le_succ _)
        (by simp [Watcher.step, hphase, Except.map])
    | ok s =>
      -- A stream is got only by one of the questions before the bound.
      have hbefore : p.watches < bound := by
        by_contra hbehind
        exact hfew p.watches (Nat.not_lt.mp hbehind) s hwatch
      have hstep : p.watcher.step (.subscribed (.ok ())) =
          { p.watcher with failures := 0, phase := .following } := by
        simp [Watcher.step, hphase]
      refine ⟨⟨?_, ?_, fun _ => ?_⟩, .inl ?_⟩
      · rw [after_watcher]
        exact hstep ▸ h.quiet
      · rw [after_watcher]
        exact hstep ▸ (by simp)
      · obtain ⟨e, he⟩ := hends p.watches s hwatch
        exact ⟨e, by simpa [Answers.after, streamAt, hwatch] using he⟩
      · simp only [left, Answers.after]
        omega
  | following =>
    obtain ⟨e, he⟩ := h.ends hphase
    rw [hphase] at hnext
    obtain ⟨message, hmessage, rfl⟩ := Option.map_eq_some_iff.mp hnext
    obtain ⟨rest, hrest⟩ := List.head?_eq_some_iff.mp hmessage
    cases message with
    | error e' =>
      exact h.lose (by simp [rank, hphase, hrest]) (Nat.le_refl _) (by simp [Watcher.step, hphase])
    | ok change =>
      have hstep : p.watcher.step (.received (.ok change)) = p.watcher.follow change := by
        simp [Watcher.step, hphase]
      have hfollow : (p.watcher.follow change).phase = .following := hphase
      refine ⟨⟨?_, ?_, fun _ => ⟨e, ?_⟩⟩, .inr ⟨rfl, .inr ⟨?_, ?_⟩⟩⟩
      · rw [after_watcher, hstep]
        exact h.quiet
      · simp [hstep, hfollow]
      · simpa [Answers.after, hrest] using he
      · simp [left, hstep, Watcher.follow]
      · simp [left, rank, hstep, hfollow, hphase, Answers.after, hrest]
  | waiting =>
    rw [hphase] at hnext
    obtain rfl := Option.some.inj hnext
    have hstep : p.watcher.step .rested = { p.watcher with phase := .rereading } := by
      simp [Watcher.step, hphase, h.quiet]
    refine ⟨⟨?_, ?_, ?_⟩, .inr ⟨rfl, .inr ⟨?_, ?_⟩⟩⟩
    · rw [after_watcher, hstep]
      exact h.quiet
    · simp [hstep]
    · simp [hstep]
    · simp [left, hstep]
    · simp [left, rank, hstep, hphase]
  | rereading =>
    rw [hphase] at hnext
    obtain rfl := Option.some.inj hnext
    cases hget : a.gets p.gets with
    | error e =>
      exact h.lose (by simp [rank, hphase]) (Nat.le_refl _) (by simp [Watcher.step, hphase])
    | ok f =>
      have hstep : p.watcher.step (.reread (.ok f)) =
          { p.watcher.refresh f with phase := .subscribing } := by
        simp [Watcher.step, hphase]
      refine ⟨⟨?_, ?_, ?_⟩, .inr ⟨rfl, .inr ⟨?_, ?_⟩⟩⟩
      · rw [after_watcher, hstep]
        exact h.quiet
      · simp [hstep]
      · simp [hstep]
      · simp [left, hstep, Watcher.refresh]
      · simp [left, rank, hstep, hphase]

/-- If a store brings only finitely many streams, and all of them end, the
    watcher gives up at some time. -/
theorem GoesOn.gives_up {bound : Nat} (hfew : ∀ n, bound ≤ n → ∀ s, a.watches n ≠ .ok s)
    (hends : ∀ n s, a.watches n = .ok s → s.Ends) {p : Answered} (h : GoesOn p) :
    ∃ n w, p.watcher.run? (a.occurrences p n) = some w ∧ w.phase = .gaveUp := by
  cases hnext : a.next? p with
  | none => exact ⟨0, p.watcher, rfl, h.gaveUp_of_next? hnext⟩
  | some o =>
    obtain ⟨hafter, hless⟩ := h.after hfew hends hnext
    obtain ⟨n, w, hrun, hphase⟩ := GoesOn.gives_up hfew hends hafter
    rw [after_watcher] at hrun
    refine ⟨n + 1, w, ?_, hphase⟩
    unfold occurrences
    rw [hnext]
    exact Watcher.run?_cons_eq_some.mpr ⟨(admits_of_next? hnext).1, hrun⟩
termination_by left bound p
decreasing_by
  simp only [ScriptRun.Before] at hless
  simp only [Prod.lex_def]
  exact hless

end Answers

/-! ### The whole protocol -/

/-- Whatever a store does, as long as the watcher is not told to stop: it first
    asks for the stream behind the revision that it starts from; each later
    question is the one that comes next after the one before; without a stream
    between them the key is read only so often as the watcher may retry; and it
    gives up exactly when it has been read that often since the last stream and
    the attempt has failed, after which it asks for nothing any more.  Against
    a store that brings only finitely many streams, all of which end, it gives
    up at some time. -/
theorem Watcher.reconnects (key : String) (maxRetries : UInt32) (revision : Int64)
    (served : Catalogue) :
    let w₀ := start key maxRetries revision served
    (∀ os w, w₀.run? os = some w → .signal ∉ os →
      let xs := w₀.exchanges os
      (∀ x ∈ xs.head?, x.call = .watch key (revision + 1)) ∧
      xs.IsChain (fun x y => y.call = x.next) ∧
      (∀ between, between <:+: xs → (∀ x ∈ between, x.isStream = false) →
        between.countP Exchange.isGet ≤ maxRetries.toNat) ∧
      (w.phase = .gaveUp ↔
        (∃ o ∈ os.getLast?, o.isFailure) ∧ retries xs = maxRetries.toNat) ∧
      (w.phase = .gaveUp → w.call? = none ∧ ∀ o, w.admits o → o = .signal)) ∧
    ∀ a : Answers,
      (∀ n, (∃ w, w₀.run? (a.occurrences { watcher := w₀ } n) = some w) ∧
        .signal ∉ a.occurrences { watcher := w₀ } n) ∧
      ((∃ bound, ∀ n, bound ≤ n → ∀ s, a.watches n ≠ .ok s) →
        (∀ n s, a.watches n = .ok s → s.Ends) →
        ∃ n w, w₀.run? (a.occurrences { watcher := w₀ } n) = some w ∧ w.phase = .gaveUp) := by
  intro w₀
  have hstart := tracks_start key maxRetries revision served
  refine ⟨fun os w hrun hsignal => ?_, fun a => ⟨fun n => ?_, ?_⟩⟩
  · have horderly := (tracks_run? hstart hrun hsignal).orderly
    refine ⟨horderly.head, horderly.chain, horderly.few, gaveUp_iff hstart rfl hrun hsignal, ?_⟩
    intro hphase
    exact ⟨by simp [call?, hphase], fun o => eq_signal_of_gaveUp hphase⟩
  · exact a.run?_occurrences { watcher := w₀ } n
  · rintro ⟨bound, hfew⟩ hends
    have hgoes : Answers.GoesOn { watcher := w₀ } :=
      ⟨rfl, by simp [w₀, start], fun hphase => by cases hphase⟩
    exact hgoes.gives_up hfew hends

/-- The only stream ends at once, the key is read, no other stream is got, and
    the second attempt fails as well: two are enough. -/
theorem Watcher.reconnects_twice :
    let read : Fetched := { kv := none, revision := 20 }
    let a : Answers :=
      { gets := fun n => if n = 0 then .ok read else .error .noEndpoints
        watches := fun n =>
          if n = 0 then .ok { messages := [], staysOpen := false } else .error .closed }
    let w₀ := start "k" 2 4 .initial
    let os : List Occurrence :=
      [.subscribed (.ok ()), .received (.error .closed), .rested, .reread (.ok read),
        .subscribed (.error .closed), .rested, .reread (.error .noEndpoints)]
    (∃ w, w₀.run? os = some w ∧ .signal ∉ os ∧ w.phase = .gaveUp) ∧
      (w₀.exchanges os).map Exchange.call =
        [.watch "k" 5, .get "k", .watch "k" 21, .get "k"] ∧
      (∀ n, 1 ≤ n → ∀ s, a.watches n ≠ .ok s) ∧ (∀ n s, a.watches n = .ok s → s.Ends) ∧
      ∃ n w, w₀.run? (a.occurrences { watcher := w₀ } n) = some w ∧ w.phase = .gaveUp := by
  intro read a w₀ os
  obtain ⟨hruns, hscripts⟩ := reconnects "k" 2 4 .initial
  have hsignal : .signal ∉ os := by decide
  obtain ⟨w, hrun⟩ := Option.isSome_iff_exists.mp (show (w₀.run? os).isSome by decide +kernel)
  obtain ⟨-, -, -, hgaveUp, -⟩ := hruns os w hrun hsignal
  have hfew : ∀ n, 1 ≤ n → ∀ s, a.watches n ≠ .ok s := by
    intro n hn s
    simp [a, Nat.one_le_iff_ne_zero.mp hn]
  have hends : ∀ n s, a.watches n = .ok s → s.Ends := by
    intro n s hs
    by_cases hn : n = 0
    · obtain rfl : { messages := [], staysOpen := false } = s := by simpa [a, hn] using hs
      exact ⟨.closed, by simp [ScriptedStream.sent]⟩
    · simp [a, hn] at hs
  refine ⟨⟨w, hrun, hsignal, hgaveUp.mpr ⟨⟨_, rfl, rfl⟩, ?_⟩⟩, ?_, hfew, hends, ?_⟩
  · decide +kernel
  · decide +kernel
  · exact (hscripts a).2 ⟨1, hfew⟩ hends

end FlashSale
