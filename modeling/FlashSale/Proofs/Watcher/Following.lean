import FlashSale.Proofs.Catalogue.Accepted
import FlashSale.Proofs.Store.Stream
import FlashSale.Proofs.Watcher.Run
import FlashSale.Watcher.Session

/-! # A watcher in step with its store

    At any time the watcher knows the first so many changes of the store: the
    stream that it follows carries those that come behind them, and what it
    serves is what it has made of them.

    How many changes it knows, and which change it is told of by an event, is
    not part of the program's state.  Both are counted beside it. -/

namespace FlashSale

-- Sessions are compared only where a run of them is evaluated.
deriving instance DecidableEq for Subscription, MemoryStore, WatchSession

/-- Publishing what a change has left, after following it, changes nothing. -/
theorem Catalogue.publish_follow (c : Catalogue) {key : String} {change : Change} {kv : KeyValue}
    (hkey : change.key = key) (h : change.value? = some kv) :
    (c.follow key change).publish kv = c.follow key change := by
  cases change with
  | put kv' =>
    obtain rfl := Option.some.inj h
    rw [show c.follow key (.put kv') = c.publish kv' from if_pos hkey]
    exact c.publish_publish kv'
  | delete key' revision => cases h

namespace WatchSession

/-! ### Events -/

/-- Something is done to the store, or the watcher takes its next step. -/
inductive Event where
  | store (e : MemoryStore.Event)
  | advance
  deriving DecidableEq

/-- The session after an event, if the event is possible.  A watcher that reads
    the key anew goes on from the next revision, so there must be one. -/
def step? (s : WatchSession) : Event → Option WatchSession
  | .store e => (s.store.step? e).map fun store => { s with store }
  | .advance =>
    if s.watcher.phase = .rereading ∧ ¬ s.store.HasRoom then none else s.advance?

/-- The session after events that come one after the other. -/
def run? (s : WatchSession) : List Event → Option WatchSession
  | [] => some s
  | e :: rest => (s.step? e).bind (run? · rest)

/-- The change that an event tells the watcher of, if it knew the first
    `known` changes: the next one on its stream or, when it reads the key anew,
    the last one that it has missed. -/
def told? (s : WatchSession) (known : Nat) : Event → Option Change
  | .store _ => none
  | .advance =>
    match s.watcher.phase, s.pending with
    | .following, .ok change :: _ => some change
    | .rereading, _ =>
      if s.store.offline then none else (s.store.news s.watcher.key known).getLast?
    | _, _ => none

/-- The changes that the watcher passes over by an event: those that it has
    missed when it reads the key anew, but for the last one. -/
def passed (s : WatchSession) (known : Nat) : Event → List Change
  | .store _ => []
  | .advance =>
    match s.watcher.phase with
    | .rereading =>
      if s.store.offline then [] else (s.store.news s.watcher.key known).dropLast
    | _ => []

/-- How many changes the watcher knows after an event. -/
def knows (s : WatchSession) (known : Nat) : Event → Nat
  | .store _ => known
  | .advance =>
    match s.watcher.phase, s.pending with
    | .following, .ok change :: _ => change.revision.toInt.toNat
    | .rereading, _ => if s.store.offline then known else s.store.history.length
    | _, _ => known

/-! ### Being in step -/

/-- The watcher knows the first `known` changes, and has all it needs to get to
    know the others. -/
structure InStep (s : WatchSession) (known : Nat) : Prop where
  consistent : s.store.Consistent
  known_le : known ≤ s.store.history.length
  /-- What those changes have left under the key would not alter what is
      served. -/
  settled : ∀ kv, valueAfter s.watcher.key (s.store.history.take known) = some kv →
    s.watcher.catalogue.publish kv = s.watcher.catalogue
  served : s.watcher.catalogue.revision.toInt ≤ known
  subscribing : s.watcher.phase = .subscribing → s.watcher.next.toInt = known + 1
  following : s.watcher.phase = .following →
    ∃ n, s.stream = some n ∧ s.store.Carries n s.watcher.key known

/-- The watcher has got from knowing `known` changes to knowing `known'`.  It was
    told of some of those between, has followed them, and has passed over the
    others. -/
structure Advanced (s : WatchSession) (known : Nat) (told passed : List Change)
    (s' : WatchSession) (known' : Nat) : Prop where
  inStep : s'.InStep known'
  known_le : known ≤ known'
  key : s'.watcher.key = s.watcher.key
  history : s.store.history <+: s'.store.history
  catalogue : s'.watcher.catalogue = s.watcher.catalogue.followAll s.watcher.key told
  sublist : told.Sublist
    (((s'.store.history.take known').drop known).filter (·.key == s.watcher.key))
  perm : (told ++ passed).Perm
    (((s'.store.history.take known').drop known).filter (·.key == s.watcher.key))

variable {s s' : WatchSession} {known : Nat}

/-- The watcher stays in step when it follows what it is told of the changes
    between those that it knew and those that it knows then. -/
theorem InStep.learn (h : s.InStep known) {told passed : List Change} {known' : Nat}
    (hconsistent : s'.store.Consistent) (hhistory : s'.store.history = s.store.history)
    (hknown : known ≤ known') (hle : known' ≤ s.store.history.length)
    (hkey : s'.watcher.key = s.watcher.key)
    (hcatalogue : s'.watcher.catalogue = s.watcher.catalogue.followAll s.watcher.key told)
    (htold : told.Sublist
      (((s.store.history.take known').drop known).filter (·.key == s.watcher.key)))
    (hperm : (told ++ passed).Perm
      (((s.store.history.take known').drop known).filter (·.key == s.watcher.key)))
    (hsettled : ∀ kv, valueAfter s.watcher.key (s.store.history.take known') = some kv →
      s'.watcher.catalogue.publish kv = s'.watcher.catalogue)
    (hsubscribing : s'.watcher.phase = .subscribing → s'.watcher.next.toInt = known' + 1)
    (hfollowing : s'.watcher.phase = .following →
      ∃ n, s'.stream = some n ∧ s'.store.Carries n s'.watcher.key known') :
    s.Advanced known told passed s' known' where
  inStep := {
    consistent := hconsistent
    known_le := by rw [hhistory]; exact hle
    settled := by rw [hkey, hhistory]; exact hsettled
    served := by
      rw [hcatalogue]
      rcases Catalogue.revision_followAll s.watcher.catalogue s.watcher.key told with
        hsame | ⟨change, hmem, hrevision⟩
      · rw [hsame]
        have := h.served
        omega
      · -- What is served now was told of, and so is known.
        rw [hrevision]
        have hmem := List.mem_of_mem_filter (htold.subset hmem)
        exact h.consistent.revision_of_mem_take (List.mem_of_mem_drop hmem)
    subscribing := hsubscribing
    following := hfollowing }
  known_le := hknown
  key := hkey
  history := ⟨[], by rw [List.append_nil, hhistory]⟩
  catalogue := hcatalogue
  sublist := by rw [hhistory]; exact htold
  perm := by rw [hhistory]; exact hperm

/-- Nothing is learned in a step that changes neither the history of the store
    nor what is served. -/
theorem InStep.idle (h : s.InStep known) (hconsistent : s'.store.Consistent)
    (hhistory : s'.store.history = s.store.history) (hkey : s'.watcher.key = s.watcher.key)
    (hcatalogue : s'.watcher.catalogue = s.watcher.catalogue)
    (hsubscribing : s'.watcher.phase = .subscribing → s'.watcher.next.toInt = known + 1)
    (hfollowing : s'.watcher.phase = .following →
      ∃ n, s'.stream = some n ∧ s'.store.Carries n s'.watcher.key known) :
    s.Advanced known [] [] s' known := by
  refine h.learn hconsistent hhistory (Nat.le_refl _) h.known_le hkey hcatalogue
    (List.nil_sublist _) ?_ ?_ hsubscribing hfollowing
  · rw [List.drop_take_self]
    exact List.Perm.refl _
  · rw [hcatalogue]
    exact h.settled

/-- Losing the stream, or failing to get one, teaches nothing. -/
theorem InStep.lose (h : s.InStep known) (hconsistent : s'.store.Consistent)
    (hhistory : s'.store.history = s.store.history) (hw : s'.watcher = s.watcher.lose) :
    s.Advanced known [] [] s' known := by
  have hphase := s.watcher.phase_lose
  refine h.idle hconsistent hhistory ?_ ?_ ?_ ?_
  · rw [hw, s.watcher.key_lose]
  · rw [hw, s.watcher.catalogue_lose]
  · rw [hw]
    rcases hphase with hphase | hphase <;> simp [hphase]
  · rw [hw]
    rcases hphase with hphase | hphase <;> simp [hphase]

/-! ### What each event does -/

/-- A change of the store goes on the stream and stays to be known. -/
theorem InStep.store (h : s.InStep known) {e : MemoryStore.Event} {store : MemoryStore}
    (he : s.store.step? e = some store) :
    s.Advanced known [] [] { s with store } known := by
  have hconsistent := h.consistent.step? he
  rcases MemoryStore.step?_cases he with ⟨change, hc⟩ | hu
  · have htake : store.history.take known = s.store.history.take known := by
      rw [hc.history, List.take_append_of_le_length h.known_le]
    exact {
      inStep := {
        consistent := hconsistent
        known_le := by
          show known ≤ store.history.length
          rw [hc.history, List.length_append]
          exact Nat.le_add_right_of_le h.known_le
        settled := by
          show ∀ kv, valueAfter s.watcher.key (store.history.take known) = some kv → _
          rw [htake]
          exact h.settled
        served := h.served
        subscribing := h.subscribing
        following := fun hphase => by
          obtain ⟨n, hn, hcarries⟩ := h.following hphase
          exact ⟨n, hn, hcarries.changed hc h.known_le⟩ }
      known_le := Nat.le_refl _
      key := rfl
      history := ⟨[change], hc.history.symm⟩
      catalogue := rfl
      sublist := List.nil_sublist _
      perm := by
        rw [List.drop_take_self]
        exact List.Perm.refl _ }
  · refine h.idle hconsistent hu.history rfl rfl h.subscribing fun hphase => ?_
    obtain ⟨n, hn, hcarries⟩ := h.following hphase
    exact ⟨n, hn, hcarries.unchanged hu⟩

/-- A stream that the watcher gets carries what it does not know yet. -/
theorem InStep.answerWatch (h : s.InStep known) (hphase : s.watcher.phase = .subscribing) :
    s.Advanced known [] [] s.answerWatch known := by
  have hu := s.store.unchanged_watch s.watcher.key s.watcher.next
  unfold WatchSession.answerWatch
  split
  · next n store hwatch =>
    rw [hwatch] at hu
    refine h.idle (h.consistent.unchanged hu) hu.history ?_ ?_ ?_ ?_
    · simp [Watcher.step, hphase]
    · simp [Watcher.step, hphase]
    · simp [Watcher.step, hphase]
    · intro _
      have hcarries := MemoryStore.carries_watch h.consistent (h.subscribing hphase) hwatch
      exact ⟨n, rfl, by simpa [Watcher.step, hphase] using hcarries⟩
  · next e store hwatch =>
    -- The store is offline, and nothing was opened.
    rw [hwatch] at hu
    exact h.lose (h.consistent.unchanged hu) hu.history (by simp [Watcher.step, hphase])

/-- A watcher that has waited reads the key anew, or stops. -/
theorem InStep.rested (h : s.InStep known) (hphase : s.watcher.phase = .waiting) :
    s.Advanced known [] [] { s with watcher := s.watcher.step .rested } known := by
  have hstep : s.watcher.step .rested =
      { s.watcher with phase := if s.watcher.signalled then .stopped else .rereading } := by
    simp [Watcher.step, hphase]
  rw [hstep]
  refine h.idle h.consistent rfl rfl rfl ?_ ?_ <;> dsimp only <;> split <;> simp

/-- The first change on the stream is the next one of the key to be known. -/
theorem InStep.deliver (h : s.InStep known) (hphase : s.watcher.phase = .following)
    (hs : s.deliver? = some s') :
    s.Advanced known (s.told? known .advance).toList (s.passed known .advance) s'
      (s.knows known .advance) := by
  obtain ⟨n, hn, stream, hstream, hcarries⟩ := h.following hphase
  have hpending : s.pending = stream.pending := by simp [pending, hn, hstream]
  unfold deliver? at hs
  unfold told? passed knows
  rw [hn, hpending] at hs
  rw [hphase, hpending]
  cases hmore : stream.pending with
  | nil => simp [hmore] at hs
  | cons message more =>
    simp only [hmore, Option.some.injEq] at hs
    subst hs
    cases message with
    | error e =>
      exact h.lose (h.consistent.updateStream _ _) rfl (by simp [Watcher.step, hphase])
    | ok change =>
      obtain ⟨rest, hrest⟩ := hcarries.eq_cons hmore
      obtain ⟨hkey, others, next, hrevision, hlt, hle, hothers, htake, hnews⟩ :=
        h.consistent.news_cons h.known_le hrest
      have hnext : change.revision.toInt.toNat = next := by omega
      have hstep : s.watcher.step (.received (.ok change)) = s.watcher.follow change := by
        simp [Watcher.step, hphase]
      have hfollow : (s.watcher.follow change).phase = .following := hphase
      dsimp only
      rw [hnext, hstep, if_pos hfollow]
      -- Of what came between, only this change is one of the key.
      have hbetween : ((s.store.history.take next).drop known).filter
          (·.key == s.watcher.key) = [change] := by
        rw [htake, List.append_assoc, List.drop_left' (by simp [h.known_le]), List.filter_append,
          hothers]
        simp [hkey]
      refine h.learn (h.consistent.updateStream _ _) rfl (Nat.le_of_lt hlt) hle rfl rfl
        ?_ ?_ ?_ ?_ ?_
      · rw [hbetween]
        exact List.Sublist.refl _
      · rw [hbetween]
        exact List.Perm.refl _
      · intro kv hkv
        rw [htake, valueAfter_append_singleton, if_pos hkey] at hkv
        exact Catalogue.publish_follow _ hkey hkv
      · intro hsubscribing
        simp [hfollow] at hsubscribing
      · intro _
        refine ⟨n, rfl, stream.takeOne, ?_, ?_⟩
        · show (s.store.streams.modify n _)[n]? = _
          rw [List.getElem?_modify_eq, hstream]
          rfl
        · show Subscription.Carries _ s.watcher.key (s.store.news s.watcher.key next)
          rw [hrest] at hcarries
          rw [hnews]
          exact hcarries.takeOne hmore

/-- Reading the key anew comes to the same as following the last change that
    was missed. -/
theorem InStep.refresh_eq (h : s.InStep known) (revision : Int64) :
    s.watcher.catalogue.refresh { kv := s.store.find? s.watcher.key, revision } =
      s.watcher.catalogue.followAll s.watcher.key
        (s.store.news s.watcher.key known).getLast?.toList := by
  have hvalue := h.consistent.value s.watcher.key
  -- What is stored was left by the last change that was missed, or else by what is known.
  rw [← List.take_append_drop known s.store.history, valueAfter_append] at hvalue
  rw [hvalue]
  unfold MemoryStore.news
  cases hlast : ((s.store.history.drop known).filter (·.key == s.watcher.key)).getLast? with
  | none =>
    show s.watcher.catalogue.refresh _ = s.watcher.catalogue
    cases hkv : valueAfter s.watcher.key (s.store.history.take known) with
    | none => rfl
    | some kv => exact h.settled kv hkv
  | some change =>
    have hkey : change.key = s.watcher.key := by
      simpa using (List.mem_filter.mp (List.mem_of_getLast? hlast)).2
    cases change with
    | put kv =>
      show s.watcher.catalogue.publish kv = s.watcher.catalogue.follow s.watcher.key (.put kv)
      exact (if_pos hkey).symm
    | delete key revision => rfl

/-- After reading the key anew the watcher knows all changes. -/
theorem InStep.answerGet (h : s.InStep known) (hphase : s.watcher.phase = .rereading)
    (room : s.store.HasRoom) :
    s.Advanced known (s.told? known .advance).toList (s.passed known .advance) s.answerGet
      (s.knows known .advance) := by
  have hu := s.store.unchanged_get s.watcher.key
  have hconsistent := h.consistent.unchanged hu
  unfold told? passed knows WatchSession.answerGet
  rw [hphase]
  cases hoffline : s.store.offline with
  | true =>
    -- The store gives no answer, which counts as one more failure.
    exact h.lose hconsistent hu.history (by simp [MemoryStore.get, hoffline, Watcher.step, hphase])
  | false =>
    have hget : s.store.get s.watcher.key =
        (.ok { kv := s.store.find? s.watcher.key, revision := s.store.revision },
          { s.store with gets := s.store.gets + 1 }) := by
      simp [MemoryStore.get, hoffline]
    have hstep (f : Fetched) : s.watcher.step (.reread (.ok f)) =
        { s.watcher.refresh f with phase := .subscribing } := by
      simp [Watcher.step, hphase]
    rw [hget] at hconsistent ⊢
    dsimp only
    rw [hstep]
    show s.Advanced known (s.store.news s.watcher.key known).getLast?.toList
      (s.store.news s.watcher.key known).dropLast _ s.store.history.length
    have hmissed : (s.store.news s.watcher.key known).dropLast ++
        (s.store.news s.watcher.key known).getLast?.toList = s.store.news s.watcher.key known := by
      rw [List.dropLast_eq_take]
      exact List.take_append_getLast? _
    refine h.learn hconsistent rfl h.known_le (Nat.le_refl _) rfl (h.refresh_eq _) ?_ ?_ ?_ ?_ ?_
    · rw [List.take_length]
      exact List.IsSuffix.sublist ⟨_, hmissed⟩
    · rw [List.take_length]
      exact List.perm_append_comm.trans (List.Perm.of_eq hmissed)
    · intro kv hkv
      rw [List.take_length, ← h.consistent.value] at hkv
      show (s.watcher.catalogue.refresh _).publish kv = s.watcher.catalogue.refresh _
      rw [hkv]
      exact s.watcher.catalogue.publish_publish kv
    · intro _
      show (s.store.revision + 1).toInt = _
      rw [toInt_add_one room, h.consistent.revision]
    · intro hfollowing
      cases hfollowing

/-- One event leaves the watcher in step with its store. -/
theorem InStep.step? {e : Event} (h : s.InStep known) (hs : s.step? e = some s') :
    s.Advanced known (s.told? known e).toList (s.passed known e) s' (s.knows known e) := by
  cases e with
  | store e =>
    obtain ⟨store, hstore, rfl⟩ := Option.map_eq_some_iff.mp hs
    exact h.store hstore
  | advance =>
    simp only [WatchSession.step?, Option.ite_none_left_eq_some, not_and, not_not] at hs
    obtain ⟨room, hs⟩ := hs
    unfold advance? at hs
    cases hphase : s.watcher.phase with
    | subscribing =>
      rw [hphase] at hs
      obtain rfl := Option.some.inj hs
      have := h.answerWatch hphase
      simpa [told?, passed, knows, hphase] using this
    | following =>
      rw [hphase] at hs
      exact h.deliver hphase hs
    | waiting =>
      rw [hphase] at hs
      obtain rfl := Option.some.inj hs
      have := h.rested hphase
      simpa [told?, passed, knows, hphase] using this
    | rereading =>
      rw [hphase] at hs
      obtain rfl := Option.some.inj hs
      exact h.answerGet hphase (room hphase)
    | gaveUp => simp [hphase] at hs
    | stopped => simp [hphase] at hs

/-! ### Runs -/

/-- The changes that the watcher passes over in a run, if it knew the first
    `known` changes before. -/
def passedOver (s : WatchSession) (known : Nat) : List Event → List Change
  | [] => []
  | e :: rest =>
    match s.step? e with
    | none => []
    | some s' => s.passed known e ++ s'.passedOver (s.knows known e) rest

/-- What is known at the end is what was known between, and what came behind
    it. -/
theorem Advanced.take_drop {s₁ s₂ s₃ : WatchSession} {known₁ known₂ known₃ : Nat}
    {told more passed also : List Change} (h : s₁.Advanced known₁ told passed s₂ known₂)
    (h' : s₂.Advanced known₂ more also s₃ known₃) :
    (s₃.store.history.take known₃).drop known₁ =
      (s₂.store.history.take known₂).drop known₁ ++
        (s₃.store.history.take known₃).drop known₂ := by
  obtain ⟨behind, hbehind⟩ := h'.history
  have hfirst : s₃.store.history.take known₂ = s₂.store.history.take known₂ := by
    rw [← hbehind, List.take_append_of_le_length h.inStep.known_le]
  have hlength : known₁ ≤ (s₂.store.history.take known₂).length := by
    rw [List.length_take, Nat.min_eq_left h.inStep.known_le]
    exact h.known_le
  rw [← List.drop_append_of_le_length hlength]
  conv_lhs => rw [← List.take_append_drop known₂ (s₃.store.history.take known₃)]
  rw [List.take_take, Nat.min_eq_left h'.known_le, hfirst]

theorem Advanced.trans {s₁ s₂ s₃ : WatchSession} {known₁ known₂ known₃ : Nat}
    {told more passed also : List Change} (h : s₁.Advanced known₁ told passed s₂ known₂)
    (h' : s₂.Advanced known₂ more also s₃ known₃) :
    s₁.Advanced known₁ (told ++ more) (passed ++ also) s₃ known₃ where
  inStep := h'.inStep
  known_le := Nat.le_trans h.known_le h'.known_le
  key := h'.key.trans h.key
  history := h.history.trans h'.history
  catalogue := by
    rw [h'.catalogue, h.key, h.catalogue, Catalogue.followAll_append]
  sublist := by
    have hmore := h'.sublist
    rw [h.key] at hmore
    rw [h.take_drop h', List.filter_append]
    exact h.sublist.append hmore
  perm := by
    have hmore := h'.perm
    rw [h.key] at hmore
    rw [h.take_drop h', List.filter_append]
    refine List.Perm.trans ?_ (h.perm.append hmore)
    rw [List.append_assoc, List.append_assoc]
    refine List.Perm.append_left told ?_
    rw [← List.append_assoc, ← List.append_assoc]
    exact List.perm_append_comm.append_right also

/-- A watcher stays in step with its store whatever happens. -/
theorem InStep.run? {events : List Event} (h : s.InStep known) (hrun : s.run? events = some s') :
    ∃ told known', s.Advanced known told (s.passedOver known events) s' known' := by
  induction events generalizing s known with
  | nil =>
    obtain rfl := Option.some.inj hrun
    exact ⟨[], known, h.idle h.consistent rfl rfl rfl h.subscribing h.following⟩
  | cons e rest ih =>
    -- One event, and then the rest from what is known after it.
    obtain ⟨next, hnext, hrest⟩ := Option.bind_eq_some_iff.mp hrun
    have hstep := h.step? hnext
    obtain ⟨told, known', hadvanced⟩ := ih hstep.inStep hrest
    refine ⟨(s.told? known e).toList ++ told, known', ?_⟩
    rw [passedOver, hnext]
    exact hstep.trans hadvanced

end WatchSession

end FlashSale
