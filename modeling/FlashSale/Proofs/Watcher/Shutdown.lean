import FlashSale.Proofs.Watcher.Scripted
import FlashSale.Proofs.Watcher.Served

/-! # Being told to stop

    A signal to stop, or the loss of whoever could give it, is not noticed at
    once: the watcher may wait for an answer, and over a stream a message may
    come first.  But from the signal on the way to the end is short.  Each
    occurrence brings the end nearer, the key is not read again, and a stream is
    asked for only behind a read that was under way. -/

namespace FlashSale

/-- The change that comes with a message of a stream. -/
def Occurrence.change? : Occurrence → Option Change
  | .received (.ok change) => some change
  | _ => none

/-- The changes that some messages bring. -/
def changesIn (messages : List Message) : List Change :=
  messages.filterMap Except.toOption

/-- The changes that a scripted stream offers, by the number of the question for
    it, from zero on; none where there is no stream. -/
def Script.changes (script : Script) (n : Nat) : List Change :=
  match script.watches[n]? with
  | some (.ok stream) => changesIn stream.messages
  | _ => []

theorem changesIn_sent (s : ScriptedStream) : changesIn s.sent = changesIn s.messages := by
  unfold changesIn ScriptedStream.sent
  rw [List.filterMap_append]
  cases s.staysOpen <;> simp [Except.toOption]

namespace Watcher

variable {w w' : Watcher}

/-! ### What is asked after the signal -/

/-- A watcher that will notice the signal before it asks for anything. -/
structure Heeds (w : Watcher) : Prop where
  signalled : w.signalled
  phase : w.phase ≠ .rereading

theorem signalled_lose (w : Watcher) : w.lose.signalled = w.signalled := by
  unfold lose
  split <;> rfl

/-- A failure leads to a wait or to the end, and the signal stays. -/
theorem heeds_lose (h : w.signalled) : w.lose.Heeds where
  signalled := by rwa [signalled_lose]
  phase := by rcases w.phase_lose with hphase | hphase <;> simp [hphase]

theorem call?_lose (w : Watcher) : w.lose.call? = none := by
  unfold call?
  rcases w.phase_lose with hphase | hphase <;> rw [hphase]

/-- The signal is not forgotten. -/
theorem Moves.signalled {o : Occurrence} (h : w.Moves o w') (hsignalled : w.signalled) :
    w'.signalled := by
  cases h with
  | signal => rfl
  | refused | lost | unread => rwa [signalled_lose]
  | _ => exact hsignalled

theorem signalled_run? {os : List Occurrence} (h : w.signalled) (hrun : w.run? os = some w') :
    w'.signalled := by
  induction os generalizing w with
  | nil =>
    obtain rfl := Option.some.inj hrun
    exact h
  | cons o rest ih =>
    obtain ⟨hadmits, hrest⟩ := run?_cons_eq_some.mp hrun
    exact ih ((moves_of_admits hadmits).signalled h) hrest

/-- A watcher that heeds the signal goes on to do so, and puts no question. -/
theorem Heeds.moves {o : Occurrence} (h : w.Heeds) (hmoves : w.Moves o w') :
    w'.Heeds ∧ (o ≠ .signal → w'.call? = none) := by
  cases hmoves with
  | signal => exact ⟨⟨rfl, h.phase⟩, fun hsignal => absurd rfl hsignal⟩
  | refused | lost => exact ⟨heeds_lose h.signalled, fun _ => w.call?_lose⟩
  | followed change phase =>
    have hfollow : (w.follow change).phase = .following := phase
    exact ⟨⟨h.signalled, by simp [hfollow]⟩, fun _ => by simp [call?, hfollow]⟩
  | subscribed | noticed | interrupted => exact ⟨⟨h.signalled, by simp⟩, fun _ => by simp [call?]⟩
  | rested phase undisturbed => simp [h.signalled] at undisturbed
  | reread f phase => exact absurd phase h.phase
  | unread e phase => exact absurd phase h.phase

theorem Heeds.asked_eq_nil {os : List Occurrence} (h : w.Heeds) (hrun : w.run? os = some w') :
    w.asked os = [] := by
  induction os generalizing w with
  | nil => rfl
  | cons o rest ih =>
    obtain ⟨hadmits, hrest⟩ := run?_cons_eq_some.mp hrun
    obtain ⟨hheeds, hcall⟩ := h.moves (moves_of_admits hadmits)
    rw [asked, ih hheeds hrest, List.append_nil]
    split
    · rfl
    · next hsignal => simp [hcall hsignal]

/-- Behind a read that is under way at most one stream is asked for. -/
theorem asked_of_rereading {os : List Occurrence} (hphase : w.phase = .rereading)
    (hsignalled : w.signalled) (hrun : w.run? os = some w') :
    w.asked os = [] ∨ ∃ start, w.asked os = [.watch w.key start] := by
  induction os generalizing w with
  | nil => exact .inl rfl
  | cons o rest ih =>
    obtain ⟨hadmits, hrest⟩ := run?_cons_eq_some.mp hrun
    have hmoves := moves_of_admits hadmits
    rw [asked]
    generalize w.step o = next at hmoves hrest
    cases hmoves with
    | signal =>
      simp only [if_true, List.nil_append]
      exact ih hphase rfl hrest
    | reread f phase =>
      -- The stream is asked for, and after that the signal is heeded.
      have hheeds : Heeds { w.refresh f with phase := .subscribing } := ⟨hsignalled, by simp⟩
      right
      refine ⟨f.revision + 1, ?_⟩
      rw [hheeds.asked_eq_nil hrest]
      rfl
    | unread e phase =>
      left
      simp [(heeds_lose hsignalled).asked_eq_nil hrest, call?_lose]
    | subscribed phase | refused e phase | followed change phase | lost e phase
    | noticed phase | interrupted phase | rested phase =>
      rw [hphase] at phase
      cases phase

/-- Counting the question that waits for its answer, the key is read once at
    most after the signal, and then a stream is asked for once at most. -/
theorem asked_sublist {os : List Occurrence} (hsignalled : w.signalled)
    (hrun : w.run? os = some w') :
    ∃ start, (w.call?.toList ++ w.asked os).Sublist [.get w.key, .watch w.key start] := by
  by_cases hphase : w.phase = .rereading
  · rcases asked_of_rereading hphase hsignalled hrun with hasked | ⟨start, hasked⟩
    · exact ⟨0, by simp [call?, hphase, hasked]⟩
    · exact ⟨start, by simp [call?, hphase, hasked]⟩
  · have hheeds : w.Heeds := ⟨hsignalled, hphase⟩
    rw [hheeds.asked_eq_nil hrun, List.append_nil]
    refine ⟨w.next, ?_⟩
    unfold call?
    split <;> simp

end Watcher

namespace ScriptRun

variable {r r' : ScriptRun} {o : Occurrence} {os : List Occurrence}

/-! ### What is still followed -/

/-- The changes that may still be followed by a watcher that heeds the signal. -/
def upcoming (r : ScriptRun) : List Change :=
  match r.watcher.phase with
  | .subscribing => changesIn r.nextMessages
  | .following => changesIn r.stream
  | _ => []

theorem upcoming_lose (h : r'.watcher = r.watcher.lose) : r'.upcoming = [] := by
  unfold upcoming
  rw [h]
  rcases r.watcher.phase_lose with hphase | hphase <;> rw [hphase]

/-- What is followed in a step is the first of what was to come, and nothing
    else alters the catalogue. -/
theorem upcoming_take (h : r.watcher.Heeds) (hchoice : o = .signal ∨ o ∈ r.choices) :
    o.change?.toList ++ (r.take o).upcoming <+: r.upcoming ∧
      (r.take o).watcher.catalogue =
        r.watcher.catalogue.followAll r.watcher.key o.change?.toList := by
  have hmoves := Watcher.moves_of_admits (admits_of_choice hchoice)
  have hwatcher := take_watcher r o
  generalize r.watcher.step o = w' at hmoves hwatcher
  cases hmoves with
  | signal =>
    rw [take_signal]
    exact ⟨List.prefix_rfl, rfl⟩
  | subscribed phase =>
    -- The changes to come are on the stream now.
    have hsame : (r.take (.subscribed (.ok ()))).upcoming = r.upcoming := by
      simp only [upcoming, hwatcher, phase]
      rfl
    rw [hsame, hwatcher]
    exact ⟨List.prefix_rfl, rfl⟩
  | followed change phase =>
    obtain ⟨rest, hstream⟩ := stream_of_received (mem_choices_of_ne_signal hchoice (by simp))
    have hnow : r.upcoming = change :: changesIn rest := by
      simp [upcoming, phase, hstream, changesIn, Except.toOption]
    have hthen : (r.take (.received (.ok change))).upcoming = changesIn rest := by
      have hfollow : (r.watcher.follow change).phase = .following := phase
      simp [upcoming, hwatcher, hfollow, hstream]
    rw [hnow, hthen, hwatcher]
    exact ⟨List.prefix_rfl, rfl⟩
  | refused e phase | lost e phase =>
    rw [upcoming_lose hwatcher, hwatcher, Watcher.catalogue_lose]
    exact ⟨List.nil_prefix, rfl⟩
  | noticed phase signalled | interrupted phase signalled =>
    simp only [upcoming, hwatcher]
    exact ⟨List.nil_prefix, rfl⟩
  | rested phase undisturbed => simp [h.signalled] at undisturbed
  | reread f phase => exact absurd phase h.phase
  | unread e phase => exact absurd phase h.phase

/-- The changes that are followed after the signal are the first ones of those
    to come, and nothing else alters the catalogue. -/
theorem upcoming_run? (h : r.watcher.Heeds) (hrun : r.run? os = some r') :
    os.filterMap Occurrence.change? <+: r.upcoming ∧
      r'.watcher.catalogue =
        r.watcher.catalogue.followAll r.watcher.key (os.filterMap Occurrence.change?) := by
  induction os generalizing r with
  | nil =>
    obtain rfl := Option.some.inj hrun
    exact ⟨List.nil_prefix, rfl⟩
  | cons o rest ih =>
    obtain ⟨hchoice, hrest⟩ := run?_cons_eq_some.mp hrun
    have hmoves := Watcher.moves_of_admits (admits_of_choice hchoice)
    obtain ⟨hfirst, hstep⟩ := upcoming_take h hchoice
    have hheeds : (r.take o).watcher.Heeds := by
      rw [take_watcher]
      exact (h.moves hmoves).1
    have hkey : (r.take o).watcher.key = r.watcher.key := by
      rw [take_watcher]
      exact hmoves.key
    obtain ⟨hmore, hcatalogue⟩ := ih hheeds hrest
    have hlist : (o :: rest).filterMap Occurrence.change? =
        o.change?.toList ++ rest.filterMap Occurrence.change? := by
      rw [List.filterMap_cons]
      cases o.change? <;> rfl
    rw [hlist]
    constructor
    · exact ((List.prefix_append_right_inj _).mpr hmore).trans hfirst
    · rw [hcatalogue, hstep, hkey, Catalogue.followAll_append]

/-! ### The end comes -/

/-- The most that can happen to a watcher that was told to stop, apart from
    further signals. -/
def toCome (r : ScriptRun) : Nat :=
  match r.watcher.phase with
  | .rereading => r.nextMessages.length + 3
  | .subscribing => r.nextMessages.length + 2
  | .following => r.stream.length + 1
  | .waiting => 1
  | .gaveUp | .stopped => 0

theorem toCome_lose (h : r'.watcher = r.watcher.lose) : r'.toCome ≤ 1 := by
  unfold toCome
  rw [h]
  rcases r.watcher.phase_lose with hphase | hphase <;> simp [hphase]

theorem toCome_take (hsignalled : r.watcher.signalled) (hmem : o ∈ r.choices) :
    (r.take o).toCome < r.toCome := by
  obtain ⟨hadmits, hsignal⟩ := admits_of_mem_choices hmem
  have hmoves := Watcher.moves_of_admits hadmits
  have hwatcher := take_watcher r o
  generalize r.watcher.step o = w' at hmoves hwatcher
  cases hmoves with
  | signal => exact absurd rfl hsignal
  | subscribed phase =>
    simp [toCome, hwatcher, phase]
  | followed change phase =>
    obtain ⟨rest, hstream⟩ := stream_of_received hmem
    have hfollow : (r.watcher.follow change).phase = .following := phase
    simp [toCome, hwatcher, hfollow, phase, hstream]
  | reread f phase =>
    -- The stream behind the read is the one that was next before.
    have hnext : (r.take (.reread (.ok f))).nextMessages = r.nextMessages := rfl
    simp only [toCome, hwatcher, phase, hnext]
    omega
  | lost e phase =>
    obtain ⟨rest, hstream⟩ := stream_of_received hmem
    have hlose := toCome_lose hwatcher
    have hmessage : r.toCome = rest.length + 2 := by simp [toCome, phase, hstream]
    omega
  | refused e phase | unread e phase =>
    have hlose := toCome_lose hwatcher
    have hanswer : 2 ≤ r.toCome := by simp [toCome, phase]
    omega
  | noticed phase signalled | interrupted phase signalled => simp [toCome, hwatcher, phase]
  | rested phase undisturbed => simp [hsignalled] at undisturbed

theorem toCome_signal (r : ScriptRun) : (r.take .signal).toCome = r.toCome := by
  rw [take_signal]
  rfl

/-- After the signal only so much can happen. -/
theorem toCome_run? (hsignalled : r.watcher.signalled) (hrun : r.run? os = some r') :
    os.countP (· ≠ .signal) + r'.toCome ≤ r.toCome := by
  induction os generalizing r with
  | nil =>
    obtain rfl := Option.some.inj hrun
    simp
  | cons o rest ih =>
    obtain ⟨hchoice, hrest⟩ := run?_cons_eq_some.mp hrun
    have hstill : (r.take o).watcher.signalled := by
      rw [take_watcher]
      exact (Watcher.moves_of_admits (admits_of_choice hchoice)).signalled hsignalled
    have hmore := ih hstill hrest
    rw [List.countP_cons]
    by_cases hsignal : o = .signal
    · -- A further signal is not counted, and changes nothing.
      subst hsignal
      rw [toCome_signal] at hmore
      simpa using hmore
    · have hless := toCome_take hsignalled (mem_choices_of_ne_signal hchoice hsignal)
      rw [if_pos (by simpa using hsignal)]
      omega

/-! ### Runs from the start -/

/-- The requests for a stream use up the script. -/
theorem watches_run? {script : Script} (hrun : r.run? os = some r')
    (h : r.script.watches = script.watches.drop r.watchesMade) :
    r'.script.watches = script.watches.drop r'.watchesMade := by
  induction os generalizing r with
  | nil =>
    obtain rfl := Option.some.inj hrun
    exact h
  | cons o rest ih =>
    apply ih (run?_cons_eq_some.mp hrun).2
    -- Only the answer to a request for a stream uses up one.
    cases o with
    | subscribed answer =>
      show r.script.watches.tail = script.watches.drop (r.watchesMade + 1)
      rw [h, List.tail_drop]
    | _ => exact h

/-- A stream that is asked for offers the changes that the script has for it. -/
theorem changesIn_nextMessages {script : Script}
    (h : r.script.watches = script.watches.drop r.watchesMade) :
    changesIn r.nextMessages = script.changes r.watchesMade := by
  unfold nextMessages nextStream Script.changes
  rw [h, List.head?_drop]
  cases script.watches[r.watchesMade]? with
  | none => rfl
  | some answer =>
    cases answer with
    | error e => rfl
    | ok stream => exact changesIn_sent stream

/-- Whatever a script lets the store answer, whenever the signal to stop comes,
    and whichever of a message and the signal is taken first from then on: only
    so much more can happen, and something can until the watcher has stopped or
    given up.  At most the key is read once more, and then a stream asked for
    once, counting a question that waits for its answer.  If that is a request
    for a stream, nothing else is asked for any more, and the changes that are
    followed are the first ones that this stream offers. -/
theorem heeds_signal (key : String) (maxRetries : UInt32) (revision : Int64) (served : Catalogue)
    (script : Script) {before : List Occurrence} {r : ScriptRun}
    (h : ({ watcher := .start key maxRetries revision served, script } : ScriptRun).run? before =
      some r) :
    let told := r.take .signal
    (∃ bound, ∀ os r', told.run? os = some r' →
      os.countP (· ≠ .signal) ≤ bound ∧
      (r'.choices = [] ↔ r'.watcher.phase = .stopped ∨ r'.watcher.phase = .gaveUp)) ∧
    ∀ os r', told.run? os = some r' →
      (∃ start, (told.watcher.call?.toList ++ told.watcher.asked os).Sublist
        [.get key, .watch key start]) ∧
      (r.watcher.phase = .subscribing →
        told.watcher.asked os = [] ∧
        os.filterMap Occurrence.change? <+: script.changes r.watchesMade ∧
        r'.watcher.catalogue =
          r.watcher.catalogue.followAll key (os.filterMap Occurrence.change?)) := by
  intro told
  have htold : told = { r with watcher := { r.watcher with signalled := true } } := r.take_signal
  have hsignalled : told.watcher.signalled := by rw [htold]
  have hkey : told.watcher.key = key := by
    rw [htold]
    exact (Watcher.run?_catalogue (run?_watcher h)).1
  refine ⟨⟨told.toCome, fun os r' hos => ?_⟩, fun os r' hos => ⟨?_, fun hphase => ?_⟩⟩
  · -- It comes to an end, and only to a proper one.
    constructor
    · exact Nat.le_trans (Nat.le_add_right _ _) (toCome_run? hsignalled hos)
    · exact choices_eq_nil_iff (Watcher.signalled_run? hsignalled (run?_watcher hos))
  · rw [← hkey]
    exact Watcher.asked_sublist hsignalled (run?_watcher hos)
  · have hphase' : told.watcher.phase = .subscribing := by rw [htold, hphase]
    have hheeds : told.watcher.Heeds := ⟨hsignalled, by simp [hphase']⟩
    obtain ⟨hfollowed, hcatalogue⟩ := upcoming_run? hheeds hos
    have hupcoming : told.upcoming = script.changes r.watchesMade := by
      have hwatches : r.script.watches = script.watches.drop r.watchesMade := watches_run? h rfl
      simp only [upcoming, hphase', ← changesIn_nextMessages hwatches]
      rfl
    refine ⟨hheeds.asked_eq_nil (run?_watcher hos), ?_, ?_⟩
    · rwa [hupcoming] at hfollowed
    · rwa [hkey, htold] at hcatalogue

/-- The first request for a stream has failed.  A watcher that is told to stop
    while it reads the key asks for the second stream, and for nothing else; one
    that is told while it asks for that stream follows the first of its changes
    before it notices. -/
theorem heeds_signal_on_second_stream :
    let put (revision : Int64) : Change := .put { key := "k", value := [], revision }
    let read : Fetched := { kv := none, revision := 20 }
    let script : Script :=
      { gets := [.ok read]
        watches := [.error .closed,
          .ok { messages := [.ok (put 21), .ok (put 22)], staysOpen := true }] }
    let w := Watcher.start "k" 3 10 .initial
    let reading : List Occurrence := [.subscribed (.error .closed), .rested]
    let os : List Occurrence := [.subscribed (.ok ()), .received (.ok (put 21)), .noticed]
    (∃ r r', ({ watcher := w, script } : ScriptRun).run? reading = some r ∧
      (r.take .signal).run? (.reread (.ok read) :: os) = some r' ∧
      (∃ start, ((r.take .signal).watcher.call?.toList ++
        (r.take .signal).watcher.asked (.reread (.ok read) :: os)).Sublist
          [.get "k", .watch "k" start])) ∧
    ∃ r r', ({ watcher := w, script } : ScriptRun).run? (reading ++ [.reread (.ok read)]) = some r ∧
      (r.take .signal).run? os = some r' ∧ r.watchesMade = 1 ∧
      (r.take .signal).watcher.asked os = [] ∧ [put 21] <+: script.changes r.watchesMade ∧
      (r'.choices = [] ↔ r'.watcher.phase = .stopped ∨ r'.watcher.phase = .gaveUp) := by
  intro put read script w reading os
  have hread : ∃ r r', ({ watcher := w, script } : ScriptRun).run? reading = some r ∧
      (r.take .signal).run? (.reread (.ok read) :: os) = some r' := ⟨_, _, rfl, rfl⟩
  have hask : ∃ r r',
      ({ watcher := w, script } : ScriptRun).run? (reading ++ [.reread (.ok read)]) = some r ∧
      (r.take .signal).run? os = some r' ∧ r.watcher.phase = .subscribing ∧ r.watchesMade = 1 :=
    ⟨_, _, rfl, rfl, rfl, rfl⟩
  constructor
  · obtain ⟨r, r', hbefore, hrun⟩ := hread
    obtain ⟨-, hafter⟩ := heeds_signal "k" 3 10 .initial script hbefore
    exact ⟨r, r', hbefore, hrun, (hafter _ r' hrun).1⟩
  · obtain ⟨r, r', hbefore, hrun, hphase, hmade⟩ := hask
    obtain ⟨⟨bound, hends⟩, hafter⟩ := heeds_signal "k" 3 10 .initial script hbefore
    obtain ⟨-, hasking⟩ := hafter _ r' hrun
    obtain ⟨hasked, hfollowed, -⟩ := hasking hphase
    exact ⟨r, r', hbefore, hrun, hmade, hasked, hfollowed, (hends _ r' hrun).2⟩

end ScriptRun

end FlashSale
