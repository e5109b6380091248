import FlashSale.Proofs.Watcher.Reconnect

/-! # Open runs against a script

    A script lays down in advance what the store answers.  Here all else is left
    open: when the signal to stop comes, and whether a message or the signal is
    taken first when both are there.  The runs in which the signal is set for a
    certain request for a stream are among these. -/

namespace FlashSale.ScriptRun

/-! ### What the script has next -/

/-- The answer to the next request for a stream. -/
def nextStream (r : ScriptRun) : Except StoreError ScriptedStream :=
  r.script.watches.head?.getD (.error .closed)

/-- The answer to the next question for the value. -/
def nextRead (r : ScriptRun) : Except StoreError Fetched :=
  r.script.gets.head?.getD (.error .noEndpoints)

/-- The messages that the next request for a stream brings. -/
def nextMessages (r : ScriptRun) : List Message :=
  match r.nextStream with
  | .ok stream => stream.sent
  | .error _ => []

/-! ### Choices -/

/-- What can happen next, apart from a signal.  With a message on the stream and
    the signal given the watcher takes either. -/
def choices (r : ScriptRun) : List Occurrence :=
  match r.watcher.phase with
  | .subscribing => [.subscribed (r.nextStream.map fun _ => ())]
  | .following =>
    (r.stream.head?.map .received).toList ++ if r.watcher.signalled then [.noticed] else []
  | .waiting => [.rested]
  | .rereading => [.reread r.nextRead]
  | .gaveUp | .stopped => []

/-- Something happens, and uses up what it was in the script. -/
def take (r : ScriptRun) (o : Occurrence) : ScriptRun :=
  let watcher := r.watcher.step o
  match o with
  | .subscribed _ =>
    { watcher, stream := r.nextMessages, watchesMade := r.watchesMade + 1,
      script := { r.script with watches := r.script.watches.tail } }
  | .received _ => { r with watcher, stream := r.stream.tail }
  | .reread _ => { r with watcher, script := { r.script with gets := r.script.gets.tail } }
  | _ => { r with watcher }

/-- What is left after some occurrences, if they can come one after the other. -/
def run? (r : ScriptRun) : List Occurrence → Option ScriptRun
  | [] => some r
  | o :: rest => if o = .signal ∨ o ∈ r.choices then (r.take o).run? rest else none

variable {r r' : ScriptRun} {o : Occurrence} {os : List Occurrence}

theorem take_watcher (r : ScriptRun) (o : Occurrence) :
    (r.take o).watcher = r.watcher.step o := by
  cases o <;> rfl

theorem take_signal (r : ScriptRun) :
    r.take .signal = { r with watcher := { r.watcher with signalled := true } } := by
  rw [← r.watcher.step_signal]
  rfl

@[simp] theorem take_subscribed_stream (r : ScriptRun) (answer : Except StoreError Unit) :
    (r.take (.subscribed answer)).stream = r.nextMessages := rfl

@[simp] theorem take_received_stream (r : ScriptRun) (message : Message) :
    (r.take (.received message)).stream = r.stream.tail := rfl

theorem run?_cons_eq_some {rest : List Occurrence} :
    r.run? (o :: rest) = some r' ↔
      (o = .signal ∨ o ∈ r.choices) ∧ (r.take o).run? rest = some r' := by
  rw [run?, Option.ite_none_right_eq_some]

/-- Only what can happen is a choice, and a signal is none. -/
theorem admits_of_mem_choices (h : o ∈ r.choices) : r.watcher.admits o ∧ o ≠ .signal := by
  unfold choices at h
  unfold Watcher.admits
  cases hphase : r.watcher.phase with
  | gaveUp | stopped => simp [hphase] at h
  | following =>
    rw [hphase] at h
    rcases List.mem_append.mp h with hmessage | hnoticed
    · obtain ⟨message, -, rfl⟩ :
          ∃ message, r.stream.head? = some message ∧ .received message = o := by
        simpa using hmessage
      simp
    · split at hnoticed
      · next hsignalled =>
        obtain rfl := List.mem_singleton.mp hnoticed
        exact ⟨hsignalled, by simp⟩
      · cases hnoticed
  | _ =>
    rw [hphase] at h
    obtain rfl := List.mem_singleton.mp h
    simp

theorem admits_of_choice (h : o = .signal ∨ o ∈ r.choices) : r.watcher.admits o := by
  rcases h with rfl | hmem
  · simp [Watcher.admits]
  · exact (admits_of_mem_choices hmem).1

theorem mem_choices_of_ne_signal (h : o = .signal ∨ o ∈ r.choices) (hsignal : o ≠ .signal) :
    o ∈ r.choices := by
  rcases h with heq | hmem
  · exact absurd heq hsignal
  · exact hmem

/-- As long as the watcher is at work there is a choice, once it was told to
    stop. -/
theorem choices_eq_nil_iff (hsignalled : r.watcher.signalled) :
    r.choices = [] ↔ r.watcher.phase = .stopped ∨ r.watcher.phase = .gaveUp := by
  unfold choices
  cases hphase : r.watcher.phase <;> simp [hsignalled]

/-- A message that can be taken is the first one on the stream. -/
theorem stream_of_received {message : Message} (h : .received message ∈ r.choices) :
    ∃ rest, r.stream = message :: rest := by
  have hadmits := (admits_of_mem_choices h).1
  have hphase : r.watcher.phase = .following := by
    cases hphase : r.watcher.phase <;> simp [Watcher.admits, hphase] at hadmits ⊢
  simp only [choices, hphase, List.mem_append] at h
  rcases h with hmessage | hnoticed
  · apply List.head?_eq_some_iff.mp
    simpa using hmessage
  · split at hnoticed <;> simp at hnoticed

/-! ### Runs -/

/-- The watcher of a run makes a run of its own. -/
theorem run?_watcher (h : r.run? os = some r') : r.watcher.run? os = some r'.watcher := by
  induction os generalizing r with
  | nil =>
    obtain rfl := Option.some.inj h
    rfl
  | cons o rest ih =>
    obtain ⟨hchoice, hrest⟩ := run?_cons_eq_some.mp h
    have hwatcher := ih hrest
    rw [take_watcher] at hwatcher
    exact Watcher.run?_cons_eq_some.mpr ⟨admits_of_choice hchoice, hwatcher⟩

/-! ### The runs with a set signal -/

theorem run?_trans {r'' : ScriptRun} {more : List Occurrence} (h : r.run? os = some r')
    (hmore : r'.run? more = some r'') : r.run? (os ++ more) = some r'' := by
  induction os generalizing r with
  | nil =>
    obtain rfl := Option.some.inj h
    exact hmore
  | cons o rest ih =>
    obtain ⟨hchoice, hrest⟩ := run?_cons_eq_some.mp h
    exact run?_cons_eq_some.mpr ⟨hchoice, ih hrest⟩

/-- One choice makes a run. -/
theorem run?_choice (h : o ∈ r.choices) : r.run? [o] = some (r.take o) :=
  run?_cons_eq_some.mpr ⟨.inr h, rfl⟩

/-- A signal can come before whatever happens next. -/
theorem run?_signal (h : o ∈ (r.take .signal).choices) :
    r.run? [.signal, o] = some ((r.take .signal).take o) :=
  run?_cons_eq_some.mpr ⟨.inl rfl, run?_choice h⟩

theorem answerWatch_eq (signalAt : Option Nat) (r : ScriptRun) :
    r.answerWatch signalAt =
      (if signalAt = some (r.watchesMade + 1) then r.take .signal else r).take
        (.subscribed (r.nextStream.map fun _ => ())) := by
  obtain ⟨watcher, ⟨gets, watches⟩, stream, watchesMade⟩ := r
  by_cases hat : signalAt = some (watchesMade + 1)
  all_goals
    simp only [answerWatch, hat, if_true, if_false]
    cases watches with
    | nil => rfl
    | cons answer rest => cases answer <;> rfl

/-- A step of a script with the signal set for a certain request is one of
    those that can be taken. -/
theorem run?_of_advance? {signalAt : Option Nat} (h : r.advance? signalAt = some r') :
    ∃ os, r.run? os = some r' := by
  unfold advance? at h
  split at h
  · next hphase =>
    obtain rfl := Option.some.inj h
    rw [answerWatch_eq]
    split
    · refine ⟨_, run?_signal ?_⟩
      rw [take_signal]
      simp [choices, hphase, nextStream]
    · refine ⟨_, run?_choice ?_⟩
      simp [choices, hphase]
  · next hphase =>
    obtain rfl := Option.some.inj h
    unfold deliver
    split
    · next hsignalled =>
      refine ⟨_, run?_choice (o := .noticed) ?_⟩
      simp [choices, hphase, hsignalled]
    · split
      · next hstream =>
        refine ⟨_, run?_signal (o := .noticed) ?_⟩
        rw [take_signal]
        simp [choices, hphase]
      · next message rest hstream =>
        refine ⟨[.received message], ?_⟩
        rw [run?_choice (by simp [choices, hphase, hstream]), take, hstream]
        rfl
  · next hphase =>
    obtain rfl := Option.some.inj h
    refine ⟨_, run?_choice (o := .rested) ?_⟩
    simp [choices, hphase]
  · next hphase =>
    obtain rfl := Option.some.inj h
    refine ⟨[.reread r.nextRead], ?_⟩
    rw [run?_choice (by simp [choices, hphase])]
    obtain ⟨watcher, ⟨gets, watches⟩, stream, watchesMade⟩ := r
    cases gets <;> rfl
  · cases h
  · cases h

/-- So the whole run of such a script is one of the runs here. -/
theorem run?_run (signalAt : Option Nat) (r : ScriptRun) :
    ∃ os r', r.run? os = some r' ∧ r'.watcher = (r.run signalAt).2 := by
  fun_induction run signalAt r with
  | case1 r hend => exact ⟨[], r, rfl, rfl⟩
  | case2 r next hnext observations w hrun ih =>
    obtain ⟨first, hfirst⟩ := run?_of_advance? hnext
    obtain ⟨os, r', hos, hwatcher⟩ := ih
    exact ⟨first ++ os, r', run?_trans hfirst hos, by rw [hwatcher, hrun]⟩

end FlashSale.ScriptRun
