import FlashSale.Proofs.Watcher.Run
import Mathlib.Data.List.Chain
import Mathlib.Data.List.Induction
import Mathlib.Data.List.Infix

/-! # What a watcher asks

    The questions of a run, each with its answer, follow a simple rule: after
    the key was read the stream behind that revision is asked for, and after
    anything else the key is read.  As long as no stream is got the key is read
    only so often as the watcher may retry, and it gives up when the next
    attempt after that has failed. -/

namespace FlashSale

/-! ### Questions and answers -/

/-- Has an attempt failed, or was a stream lost? -/
def Occurrence.isFailure : Occurrence → Bool
  | .subscribed (.error _) | .received (.error _) | .reread (.error _) => true
  | _ => false

/-- A question that was answered. -/
structure Exchange where
  call : Call
  answer : Occurrence
  deriving DecidableEq

namespace Exchange

/-- Was the key read? -/
def isGet (x : Exchange) : Bool :=
  match x.call with
  | .get _ => true
  | .watch _ _ => false

/-- Was a stream got? -/
def isStream (x : Exchange) : Bool :=
  match x.answer with
  | .subscribed (.ok _) => true
  | _ => false

/-- The question that comes next, if there is another one. -/
def next (x : Exchange) : Call :=
  match x.call, x.answer with
  | .get key, .reread (.ok f) => .watch key (f.revision + 1)
  | .get key, _ => .get key
  | .watch key _, _ => .get key

end Exchange

/-- How often the key was read since the last stream was got, or since the
    start. -/
def retries (xs : List Exchange) : Nat :=
  (xs.reverse.takeWhile fun x => !x.isStream).countP Exchange.isGet

theorem retries_concat (xs : List Exchange) (x : Exchange) :
    retries (xs ++ [x]) = if x.isStream then 0 else retries xs + if x.isGet then 1 else 0 := by
  unfold retries
  rw [List.reverse_append, List.reverse_singleton, List.singleton_append, List.takeWhile_cons]
  cases x.isStream with
  | true => rfl
  | false => simp [List.countP_cons]

/-- Since any moment without a stream behind it the key was read no more often
    than since the last stream. -/
theorem countP_le_retries {since xs : List Exchange} (h : since <:+ xs)
    (hnone : ∀ x ∈ since, x.isStream = false) : since.countP Exchange.isGet ≤ retries xs := by
  obtain ⟨before, rfl⟩ := h
  unfold retries
  rw [List.reverse_append, List.takeWhile_append_of_pos (by simpa using hnone),
    List.countP_append, List.countP_reverse]
  exact Nat.le_add_right _ _

namespace Watcher

/-- The questions that are answered in a run. -/
def exchanges (w : Watcher) : List Occurrence → List Exchange
  | [] => []
  | o :: rest => (w.call?.map fun call => { call, answer := o }).toList ++ (w.step o).exchanges rest

theorem exchanges_concat {w w' : Watcher} {os : List Occurrence} (h : w.run? os = some w')
    (o : Occurrence) : w.exchanges (os ++ [o]) =
      w.exchanges os ++ (w'.call?.map fun call => ({ call, answer := o } : Exchange)).toList := by
  induction os generalizing w with
  | nil =>
    obtain rfl := Option.some.inj h
    simp [exchanges]
  | cons first rest ih =>
    rw [List.cons_append, exchanges, exchanges, ih (run?_cons_eq_some.mp h).2, List.append_assoc]

/-- The questions that are put in a run, answered or not.  A signal may come
    while a question waits for its answer, and puts none. -/
def asked (w : Watcher) : List Occurrence → List Call
  | [] => []
  | o :: rest =>
    (if o = .signal then [] else (w.step o).call?.toList) ++ (w.step o).asked rest

/-- The question that the watcher has put or, while it follows a stream or
    waits, the one that it puts next. -/
def question (w : Watcher) : Call :=
  match w.phase with
  | .subscribing => .watch w.key w.next
  | _ => .get w.key

/-! ### Logs of questions -/

/-- A log of questions begins with the first one, each is the one that comes
    next after the one before it, and without a stream the key is read `most`
    times at most. -/
structure Orderly (first : Call) (most : Nat) (xs : List Exchange) : Prop where
  head : ∀ x ∈ xs.head?, x.call = first
  chain : xs.IsChain fun x y => y.call = x.next
  few : ∀ between, between <:+: xs → (∀ x ∈ between, x.isStream = false) →
    between.countP Exchange.isGet ≤ most

/-- The question that comes next after a log. -/
def due (first : Call) (xs : List Exchange) : Call :=
  (xs.getLast?.map Exchange.next).getD first

theorem orderly_nil (first : Call) (most : Nat) : Orderly first most [] where
  head := by simp
  chain := List.IsChain.nil
  few := by
    intro between hbetween _
    simp [List.infix_nil.mp hbetween]

theorem Orderly.concat {first : Call} {most : Nat} {xs : List Exchange} {x : Exchange}
    (h : Orderly first most xs) (hx : x.call = due first xs)
    (hmost : retries (xs ++ [x]) ≤ most) : Orderly first most (xs ++ [x]) where
  head := by
    intro y hy
    cases xs with
    | nil =>
      obtain rfl : x = y := by simpa using hy
      exact hx
    | cons first rest => exact h.head y hy
  chain := by
    refine List.isChain_append.mpr ⟨h.chain, List.isChain_singleton x, fun y hy z hz => ?_⟩
    obtain rfl : x = z := by simpa using hz
    rw [hx, due, Option.mem_def.mp hy]
    rfl
  few := by
    intro between hbetween hnone
    -- Either the last question is not among them, or they are the last ones.
    rcases List.infix_concat_iff.mp hbetween with hsuffix | hinfix
    · exact Nat.le_trans (countP_le_retries hsuffix hnone) hmost
    · exact h.few between hinfix hnone

/-! ### Keeping count -/

/-- A watcher that has not been told to stop, after the questions of a log: it
    knows which question is due and has counted its attempts. -/
structure Tracks (first : Call) (most : Nat) (xs : List Exchange) (w : Watcher) : Prop where
  orderly : Orderly first most xs
  quiet : w.signalled = false
  running : w.phase ≠ .stopped
  maxRetries : w.maxRetries.toNat = most
  question : w.phase ≠ .gaveUp → w.question = due first xs
  /-- The attempt that it waits for is counted already. -/
  failures : w.failures.toNat =
    retries xs + if w.phase = .waiting ∨ w.phase = .rereading then 1 else 0
  failures_le : w.failures.toNat ≤ most
  gaveUp : w.phase = .gaveUp → w.failures.toNat = most

variable {first : Call} {most : Nat} {xs : List Exchange} {w w' : Watcher}

/-- A watcher that asks for a stream asks what is due. -/
theorem Tracks.due_eq_watch (h : Tracks first most xs w) (phase : w.phase = .subscribing) :
    due first xs = .watch w.key w.next := by
  have hquestion := h.question (by simp [phase])
  simpa [Watcher.question, phase] using hquestion.symm

/-- In any other phase the key is to be read next. -/
theorem Tracks.due_eq_get (h : Tracks first most xs w) (hsubscribing : w.phase ≠ .subscribing)
    (hgaveUp : w.phase ≠ .gaveUp) : due first xs = .get w.key := by
  have hquestion := h.question hgaveUp
  unfold Watcher.question at hquestion
  split at hquestion
  · next phase => exact absurd phase hsubscribing
  · exact hquestion.symm

/-- One more attempt is made, unless there were enough of them. -/
theorem tracks_lose (horderly : Orderly first most xs) (hquiet : w.signalled = false)
    (hmax : w.maxRetries.toNat = most) (hdue : due first xs = .get w.key)
    (hfailures : w.failures.toNat = retries xs) (hle : w.failures.toNat ≤ most) :
    Tracks first most xs w.lose := by
  rcases w.lose_cases with ⟨hmost, hlose⟩ | ⟨hroom, hcount, hlose⟩
  · rw [hlose]
    exact {
      orderly := horderly
      quiet := hquiet
      running := by simp
      maxRetries := hmax
      question := fun hphase => absurd rfl hphase
      failures := by simpa using hfailures
      failures_le := hle
      gaveUp := fun _ => by
        show w.failures.toNat = most
        omega }
  · rw [hlose]
    exact {
      orderly := horderly
      quiet := hquiet
      running := by simp
      maxRetries := hmax
      question := fun _ => hdue.symm
      failures := by
        rw [← hfailures, if_pos (.inl rfl)]
        exact hcount
      failures_le := by
        show (w.failures + 1).toNat ≤ most
        omega
      gaveUp := fun hphase => by cases hphase }

/-- A question that was due fails, and the key is to be read next. -/
theorem Tracks.fail (h : Tracks first most xs w) {x : Exchange} (hcall : x.call = due first xs)
    (hretries : retries (xs ++ [x]) = w.failures.toNat) (hnext : x.next = .get w.key) :
    Tracks first most (xs ++ [x]) w.lose := by
  have hmost : retries (xs ++ [x]) ≤ most := hretries ▸ h.failures_le
  exact tracks_lose (h.orderly.concat hcall hmost) h.quiet h.maxRetries (by simp [due, hnext])
    hretries.symm h.failures_le

/-- Whatever happens, but for a signal, leaves the watcher on track. -/
theorem Tracks.step {o : Occurrence} (h : Tracks first most xs w) (hadmits : w.admits o)
    (hsignal : o ≠ .signal) :
    Tracks first most
      (xs ++ (w.call?.map fun call => ({ call, answer := o } : Exchange)).toList) (w.step o) := by
  have hmoves := moves_of_admits hadmits
  have hfailures := h.failures
  have hle := h.failures_le
  generalize w.step o = w' at hmoves
  cases hmoves with
  | signal => exact absurd rfl hsignal
  | noticed phase signalled | interrupted phase signalled => simp [h.quiet] at signalled
  | subscribed phase =>
    -- The count begins anew with the stream.
    have hdue := h.due_eq_watch phase
    simp only [call?, phase, Option.map_some, Option.toList_some]
    have hretries : retries (xs ++
        [{ call := .watch w.key w.next, answer := .subscribed (.ok ()) }]) = 0 := by
      simp [retries_concat, Exchange.isStream]
    exact {
      orderly := h.orderly.concat hdue.symm (by omega)
      quiet := h.quiet
      running := by simp
      maxRetries := h.maxRetries
      question := fun _ => by simp [due, Watcher.question, Exchange.next]
      failures := by simpa using hretries.symm
      failures_le := Nat.zero_le _
      gaveUp := fun hphase => by cases hphase }
  | refused e phase =>
    have hdue := h.due_eq_watch phase
    simp only [phase, reduceCtorEq, or_self, if_false] at hfailures
    simp only [call?, phase, Option.map_some, Option.toList_some]
    have hretries : retries (xs ++
        [{ call := .watch w.key w.next, answer := .subscribed (.error e) }]) = w.failures.toNat := by
      simp [retries_concat, Exchange.isStream, Exchange.isGet, hfailures]
    exact h.fail hdue.symm hretries rfl
  | followed change phase =>
    have hdue := h.due_eq_get (by simp [phase]) (by simp [phase])
    simp only [call?, phase, Option.map_none, Option.toList_none, List.append_nil]
    exact {
      orderly := h.orderly
      quiet := h.quiet
      running := h.running
      maxRetries := h.maxRetries
      question := fun _ => by simpa [Watcher.question, follow, phase] using hdue.symm
      failures := hfailures
      failures_le := hle
      gaveUp := h.gaveUp }
  | lost e phase =>
    have hdue := h.due_eq_get (by simp [phase]) (by simp [phase])
    simp only [phase, reduceCtorEq, or_self, if_false] at hfailures
    simp only [call?, phase, Option.map_none, Option.toList_none, List.append_nil]
    exact tracks_lose h.orderly h.quiet h.maxRetries hdue hfailures hle
  | rested phase undisturbed =>
    have hdue := h.due_eq_get (by simp [phase]) (by simp [phase])
    simp only [call?, phase, Option.map_none, Option.toList_none, List.append_nil]
    exact {
      orderly := h.orderly
      quiet := h.quiet
      running := by simp
      maxRetries := h.maxRetries
      question := fun _ => hdue.symm
      failures := by simpa [phase] using hfailures
      failures_le := hle
      gaveUp := fun hphase => by cases hphase }
  | reread f phase =>
    -- The attempt that was waited for has been made, and may still bring a stream.
    have hdue := h.due_eq_get (by simp [phase]) (by simp [phase])
    simp only [phase, or_true, if_true] at hfailures
    simp only [call?, phase, Option.map_some, Option.toList_some]
    have hretries : retries (xs ++
        [{ call := .get w.key, answer := .reread (.ok f) }]) = w.failures.toNat := by
      simp [retries_concat, Exchange.isStream, Exchange.isGet, hfailures]
    exact {
      orderly := h.orderly.concat hdue.symm (by omega)
      quiet := h.quiet
      running := by simp
      maxRetries := h.maxRetries
      question := fun _ => by simp [due, Watcher.question, Exchange.next, refresh]
      failures := by simpa [refresh] using hretries.symm
      failures_le := hle
      gaveUp := fun hphase => by cases hphase }
  | unread e phase =>
    have hdue := h.due_eq_get (by simp [phase]) (by simp [phase])
    simp only [phase, or_true, if_true] at hfailures
    simp only [call?, phase, Option.map_some, Option.toList_some]
    have hretries : retries (xs ++
        [{ call := .get w.key, answer := .reread (.error e) }]) = w.failures.toNat := by
      simp [retries_concat, Exchange.isStream, Exchange.isGet, hfailures]
    exact h.fail hdue.symm hretries rfl

/-- A watcher is on track throughout a run without a signal. -/
theorem tracks_run? {os : List Occurrence} (hstart : Tracks first most [] w)
    (h : w.run? os = some w') (hsignal : .signal ∉ os) :
    Tracks first most (w.exchanges os) w' := by
  induction os using List.reverseRecOn generalizing w' with
  | nil =>
    obtain rfl := Option.some.inj h
    exact hstart
  | append_singleton os o ih =>
    obtain ⟨before, hbefore, hadmits, rfl⟩ := run?_concat_eq_some.mp h
    simp only [List.mem_append, List.mem_singleton, not_or] at hsignal
    rw [exchanges_concat hbefore]
    exact (ih hbefore hsignal.1).step hadmits (Ne.symm hsignal.2)

theorem tracks_start (key : String) (maxRetries : UInt32) (revision : Int64) (served : Catalogue) :
    Tracks (.watch key (revision + 1)) maxRetries.toNat [] (start key maxRetries revision served) where
  orderly := orderly_nil _ _
  quiet := rfl
  running := by simp [start]
  maxRetries := rfl
  question := fun _ => rfl
  failures := by simp [start, retries]
  failures_le := Nat.zero_le _
  gaveUp := fun hphase => by cases hphase

/-! ### Giving up -/

/-- Only a failure makes the watcher give up. -/
theorem Moves.isFailure_of_gaveUp {o : Occurrence} (h : w.Moves o w') (hbefore : w.phase ≠ .gaveUp)
    (hafter : w'.phase = .gaveUp) : o.isFailure := by
  cases h with
  | signal => exact absurd hafter hbefore
  | followed change phase => simp [follow, phase] at hafter
  | refused | lost | unread => rfl
  | _ => cases hafter

/-- After a failure the watcher waits or gives up. -/
theorem Moves.phase_of_isFailure {o : Occurrence} (h : w.Moves o w') (hfailure : o.isFailure) :
    w'.phase = .waiting ∨ w'.phase = .gaveUp := by
  cases h with
  | refused | lost | unread => exact w.phase_lose
  | _ => cases hfailure

/-- A watcher that has given up does nothing any more. -/
theorem eq_signal_of_gaveUp {o : Occurrence} (hphase : w.phase = .gaveUp) (h : w.admits o) :
    o = .signal := by
  cases o <;> simp [admits, hphase] at h ⊢

/-- The watcher has given up exactly if it has just failed and the key was read
    as often as it may be. -/
theorem gaveUp_iff {os : List Occurrence} (hstart : Tracks first most [] w)
    (hphase : w.phase = .subscribing) (h : w.run? os = some w') (hsignal : .signal ∉ os) :
    w'.phase = .gaveUp ↔
      (∃ o ∈ os.getLast?, o.isFailure) ∧ retries (w.exchanges os) = most := by
  have htracks := tracks_run? hstart h hsignal
  cases os using List.reverseRecOn with
  | nil =>
    obtain rfl := Option.some.inj h
    simp [hphase]
  | append_singleton os o =>
    obtain ⟨before, hbefore, hadmits, rfl⟩ := run?_concat_eq_some.mp h
    have hmoves := moves_of_admits hadmits
    have hfailures := htracks.failures
    constructor
    · intro hgaveUp
      have hrunning : before.phase ≠ .gaveUp := by
        intro hdone
        obtain rfl := eq_signal_of_gaveUp hdone hadmits
        simp at hsignal
      refine ⟨⟨o, by simp, hmoves.isFailure_of_gaveUp hrunning hgaveUp⟩, ?_⟩
      rw [← htracks.gaveUp hgaveUp, hfailures]
      simp [hgaveUp]
    · rintro ⟨⟨o', ho', hfailure⟩, hretries⟩
      obtain rfl : o = o' := by simpa using ho'
      refine (hmoves.phase_of_isFailure hfailure).resolve_left fun hwaiting => ?_
      -- It would wait for one more attempt than there may be.
      have hle := htracks.failures_le
      simp only [hwaiting, true_or, if_true] at hfailures
      omega

end Watcher

end FlashSale
