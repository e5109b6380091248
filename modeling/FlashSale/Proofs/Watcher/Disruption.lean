import FlashSale.Proofs.Watcher.Convergence

/-! # Updates across disruptions

    Over a stream that is never broken the watcher is told of all changes of its
    key, and serves the last value that could be read.  When it has lost the
    stream it reads the key anew and so is told of the last change only: if
    that is a delete, or a value that cannot be read, then a value stored before
    it in the same disruption is passed over and never served. -/

namespace FlashSale.WatchSession

variable {s s' : WatchSession} {known : Nat} {settings : Settings} {store : MemoryStore}

/-- What the watcher was told of came behind what it knew, in the same order. -/
theorem Advanced.told_sublist {told passed : List Change} {known' : Nat}
    (ha : s.Advanced known told passed s' known') :
    told.Sublist (s'.store.history.drop known) := by
  refine ha.sublist.trans (List.filter_sublist.trans ?_)
  rw [List.drop_take]
  exact List.take_sublist _ _

/-- After everything was taken off the stream, each change of the key was
    either followed or passed over. -/
theorem Advanced.mem_told_iff {told passed : List Change} {known' : Nat}
    (ha : s.Advanced known told passed s' known') (hphase : s'.watcher.phase = .following)
    (hdrained : s'.pending = []) {change : Change}
    (hmem : change ∈ s'.store.history.drop known) (hkey : change.key = s.watcher.key) :
    change ∈ told ↔ change ∉ passed := by
  have hnews := ha.inStep.news_eq_nil hphase hdrained
  unfold MemoryStore.news at hnews
  rw [ha.key] at hnews
  have hlength : known ≤ (s'.store.history.take known').length := by
    rw [List.length_take, Nat.min_eq_left ha.inStep.known_le]
    exact ha.known_le
  -- What is not known yet would still be on the stream.
  have hknown : (s'.store.history.drop known).filter (·.key == s.watcher.key) =
      ((s'.store.history.take known').drop known).filter (·.key == s.watcher.key) := by
    conv_lhs => rw [← List.take_append_drop known' s'.store.history]
    rw [List.drop_append_of_le_length hlength, List.filter_append, hnews, List.append_nil]
  have hperm := ha.perm
  rw [← hknown] at hperm
  have hnodup : (told ++ passed).Nodup := by
    refine hperm.nodup_iff.mpr (List.Nodup.filter _ ?_)
    exact ha.inStep.consistent.nodup_revisions.of_map.sublist (List.drop_sublist _ _)
  have heither : change ∈ told ++ passed :=
    hperm.mem_iff.mpr (List.mem_filter.mpr ⟨hmem, by simpa using hkey⟩)
  constructor
  · intro htold hpassed
    exact List.disjoint_of_nodup_append hnodup htold hpassed
  · intro hpassed
    exact (List.mem_append.mp heither).resolve_right hpassed

/-- After everything was taken off the stream, what is served is what it would
    be had nothing been passed over, if and only if the last readable value was
    not. -/
theorem Advanced.catalogue_eq_iff {told passed : List Change} {known' : Nat}
    (h : s.InStep known) (ha : s.Advanced known told passed s' known')
    (hphase : s'.watcher.phase = .following) (hdrained : s'.pending = []) :
    s'.watcher.catalogue =
        s.watcher.catalogue.followAll s.watcher.key (s'.store.history.drop known) ↔
      ∀ change, lastReadable? s.watcher.key (s'.store.history.drop known) = some change →
        change ∉ passed := by
  rw [ha.catalogue, Catalogue.followAll_eq_followAll_iff ha.told_sublist]
  · refine forall₂_congr fun change hlast => ?_
    obtain ⟨c, hc⟩ := readable_of_lastReadable? hlast
    exact ha.mem_told_iff hphase hdrained (mem_of_lastReadable? hlast)
      (Change.key_of_catalogue? hc)
  · exact ha.inStep.consistent.nodup_revisions.sublist ((List.drop_sublist _ _).map _)
  · -- What was served before is older than all that came later.
    intro change hmem heq
    have hnewer := ha.inStep.consistent.revision_of_mem_drop hmem
    have hold := h.served
    rw [heq] at hold
    omega

/-! ### Streams that are not broken -/

/-- Does it break the streams of the store? -/
def Event.disturbs : Event → Bool
  | .store e => e.breaks
  | .advance => false

/-- The store is online, and the watcher follows a stream that was not broken or
    is about to get one. -/
structure Undisturbed (s : WatchSession) : Prop where
  online : s.store.offline = false
  phase : s.watcher.phase = .subscribing ∨ s.watcher.phase = .following
  attached : s.watcher.phase = .following →
    ∃ n stream, s.stream = some n ∧ s.store.streams[n]? = some stream ∧ stream.attached

theorem Undisturbed.passed_eq_nil (h : s.Undisturbed) (known : Nat) (e : Event) :
    s.passed known e = [] := by
  cases e with
  | store e => rfl
  | advance => rcases h.phase with hphase | hphase <;> simp [passed, hphase]

theorem Undisturbed.stream (h : s.Undisturbed) (hin : s.InStep known)
    (hphase : s.watcher.phase = .following) :
    ∃ n stream, s.stream = some n ∧ s.store.streams[n]? = some stream ∧ stream.attached ∧
      stream.Carries s.watcher.key (s.store.news s.watcher.key known) := by
  obtain ⟨n, stream, hn, hstream, hattached⟩ := h.attached hphase
  obtain ⟨n', hn', stream', hstream', hcarries⟩ := hin.following hphase
  obtain rfl : n = n' := Option.some.inj (hn.symm.trans hn')
  obtain rfl : stream = stream' := Option.some.inj (hstream.symm.trans hstream')
  exact ⟨n, stream, hn, hstream, hattached, hcarries⟩

/-- Without a break the watcher gets its stream and stays on it. -/
theorem Undisturbed.step? {e : Event} (h : s.Undisturbed) (hin : s.InStep known)
    (hs : s.step? e = some s') (he : e.disturbs = false) : s'.Undisturbed := by
  cases e with
  | store e =>
    obtain ⟨store, hstore, rfl⟩ := Option.map_eq_some_iff.mp hs
    obtain ⟨honline, hkept⟩ := MemoryStore.attached_step? hstore he h.online
    refine ⟨honline, h.phase, fun hphase => ?_⟩
    obtain ⟨n, stream, hn, hstream, hattached, hcarries⟩ := h.stream hin hphase
    obtain ⟨stream', hstream', hattached'⟩ := hkept n stream hstream hcarries.held hattached
    exact ⟨n, stream', hn, hstream', hattached'⟩
  | advance =>
    simp only [WatchSession.step?, Option.ite_none_left_eq_some, not_and, not_not] at hs
    obtain ⟨-, hs⟩ := hs
    unfold advance? at hs
    rcases h.phase with hphase | hphase
    · -- The store is online, so the watcher gets its stream.
      rw [hphase] at hs
      obtain rfl := Option.some.inj hs
      unfold answerWatch MemoryStore.watch
      rw [h.online]
      refine ⟨rfl, .inr ?_, fun _ => ⟨_, _, rfl, List.getElem?_concat_length, rfl⟩⟩
      simp [Watcher.step, hphase]
    · rw [hphase] at hs
      obtain ⟨n, stream, hn, hstream, hattached, hcarries⟩ := h.stream hin hphase
      have hpending : s.pending = stream.pending := by simp [pending, hn, hstream]
      simp only [deliver?, hn, hpending, hcarries.attached hattached] at hs
      cases hnews : s.store.news s.watcher.key known with
      | nil => simp [hnews] at hs
      | cons change more =>
        -- Without a break there are only changes on the stream, and it is followed on.
        have hstep : s.watcher.step (.received (.ok change)) = s.watcher.follow change := by
          simp [Watcher.step, hphase]
        have hfollow : (s.watcher.follow change).phase = .following := hphase
        simp only [hnews, List.map_cons, hstep, hfollow, if_true, Option.some.injEq] at hs
        obtain rfl := hs
        refine ⟨h.online, .inr hfollow, fun _ => ⟨n, stream.takeOne, rfl, ?_, hattached⟩⟩
        show (s.store.streams.modify n _)[n]? = _
        rw [List.getElem?_modify_eq, hstream]
        rfl

/-- Over a stream that is not broken nothing is passed over. -/
theorem Undisturbed.passedOver_eq_nil {events : List Event} (h : s.Undisturbed)
    (hin : s.InStep known) (hrun : s.run? events = some s')
    (hquiet : ∀ e ∈ events, e.disturbs = false) : s.passedOver known events = [] := by
  induction events generalizing s known with
  | nil => rfl
  | cons e rest ih =>
    obtain ⟨next, hnext, hrest⟩ := Option.bind_eq_some_iff.mp hrun
    have hstep := h.step? hin hnext (hquiet e (by simp))
    rw [passedOver, hnext]
    show s.passed known e ++ next.passedOver _ rest = []
    rw [h.passed_eq_nil, ih hstep (hin.step? hnext).inStep hrest fun e he => hquiet e (by simp [he])]
    rfl

theorem undisturbed_of_launch? (h : launch? settings store = some s) : s.Undisturbed := by
  obtain ⟨-, honline, rfl⟩ := launch?_eq_some h
  unfold answerGet unlaunched MemoryStore.get
  dsimp only
  rw [honline]
  exact ⟨rfl, .inl rfl, fun hphase => by cases hphase⟩

/-- As long as the streams are not broken after a launch, the watcher follows
    every change. -/
theorem serves_all_of_undisturbed {before : List MemoryStore.Event} {launched : WatchSession}
    {events : List Event} (hstore : ({} : MemoryStore).run? before = some store)
    (hlaunch : launch? settings store = some launched) (hrun : launched.run? events = some s)
    (hquiet : ∀ e ∈ events, e.disturbs = false) (hphase : s.watcher.phase = .following)
    (hdrained : s.pending = []) :
    s.watcher.catalogue = launched.watcher.catalogue.followAll settings.watchedKey
      (s.store.history.drop launched.store.history.length) := by
  obtain ⟨hstart, hkey⟩ := inStep_of_launch? (MemoryStore.consistent_empty.run? hstore) hlaunch
  have hnone := (undisturbed_of_launch? hlaunch).passedOver_eq_nil hstart hrun hquiet
  obtain ⟨told, known, ha⟩ := hstart.run? hrun
  rw [← hkey, ha.catalogue_eq_iff hstart hphase hdrained, hnone]
  simp

/-! ### Streams that are broken -/

/-- Whatever happens to the store after a launch: once the watcher has a stream
    again and has taken everything off it, it serves what it would serve had
    the stream never been broken if and only if the last readable value was
    not passed over; and it serves the same products if and only if that was
    not passed over or has the products that are served anyway. -/
theorem serves_unbroken_iff {before : List MemoryStore.Event} {launched : WatchSession}
    {events : List Event} (hstore : ({} : MemoryStore).run? before = some store)
    (hlaunch : launch? settings store = some launched) (hrun : launched.run? events = some s)
    (hphase : s.watcher.phase = .following) (hdrained : s.pending = []) :
    let key := settings.watchedKey
    let later := s.store.history.drop launched.store.history.length
    let unbroken := launched.watcher.catalogue.followAll key later
    let passed := launched.passedOver launched.store.history.length events
    (s.watcher.catalogue = unbroken ↔
      ∀ change, lastReadable? key later = some change → change ∉ passed) ∧
    (s.watcher.catalogue.products = unbroken.products ↔
      ∀ change, lastReadable? key later = some change → change ∈ passed →
        ∃ c, change.catalogue? key = some c ∧ c.products = s.watcher.catalogue.products) := by
  intro key later unbroken passed
  obtain ⟨hstart, hkey⟩ := inStep_of_launch? (MemoryStore.consistent_empty.run? hstore) hlaunch
  obtain ⟨told, known, ha⟩ := hstart.run? hrun
  have hserved := ha.catalogue_eq_iff hstart hphase hdrained
  rw [hkey] at hserved
  refine ⟨hserved, ?_, ?_⟩
  · intro heq change hlast _
    obtain ⟨c, hc⟩ := readable_of_lastReadable? hlast
    refine ⟨c, hc, ?_⟩
    rw [heq, show unbroken = c from Catalogue.followAll_of_lastReadable? _ hlast hc]
  · intro hproducts
    -- If the last readable value was passed over, the products that it has are served all
    -- the same; and if it was not, the catalogues agree.
    by_cases hlost : ∃ change, lastReadable? key later = some change ∧ change ∈ passed
    · obtain ⟨change, hlast, hpassed⟩ := hlost
      obtain ⟨c, hc, hsame⟩ := hproducts change hlast hpassed
      rw [← hsame, show unbroken = c from Catalogue.followAll_of_lastReadable? _ hlast hc]
    · rw [hserved.mpr fun change hlast hpassed => hlost ⟨change, hlast, hpassed⟩]

/-- A value that cannot be read is stored while the stream is broken, and then
    one that can; the second is what the watcher finds. -/
theorem serves_unbroken_after_rejected :
    let settings : Settings := { secret := "k" }
    let key := settings.watchedKey
    let value := Product.writeList [briefSale 1]
    let launched := (unlaunched settings {}).answerGet
    let events : List Event :=
      [.advance, .store (.setOffline true), .store (.put key []), .store (.put key value),
        .advance, .advance, .advance, .store (.setOffline false), .advance, .advance, .advance]
    launch? settings {} = some launched ∧
      ∃ s, launched.run? events = some s ∧ s.watcher.phase = .following ∧ s.pending = [] ∧
        launched.passedOver 0 events = [.put { key, value := [], revision := 1 }] ∧
        s.watcher.catalogue = launched.watcher.catalogue.followAll key s.store.history := by
  intro settings key value launched events
  have hlaunch : launch? settings {} = some launched := by decide +kernel
  have hpassed : launched.passedOver 0 events = [.put { key, value := [], revision := 1 }] := by
    decide +kernel
  obtain ⟨s, hrun, hphase, hdrained, hlast⟩ : ∃ s ∈ launched.run? events,
      s.watcher.phase = .following ∧ s.pending = [] ∧
      lastReadable? key s.store.history = some (.put { key, value, revision := 2 }) := by
    decide +kernel
  have hstore : ({} : MemoryStore).run? [] = some {} := rfl
  obtain ⟨hserved, -⟩ := serves_unbroken_iff hstore hlaunch hrun hphase hdrained
  refine ⟨hlaunch, s, hrun, hphase, hdrained, hpassed, hserved.mpr fun change hchange hmem => ?_⟩
  obtain rfl : Change.put { key, value, revision := 2 } = change :=
    Option.some.inj (hlast.symm.trans hchange)
  have hmem : _ ∈ launched.passedOver 0 events := hmem
  rw [hpassed, List.mem_singleton] at hmem
  exact absurd hmem (by decide +kernel)

/-- A value is stored and removed again while the stream is broken.  The watcher
    goes on serving the one before it, which it would not had the stream never
    been broken. -/
theorem update_lost_in_disruption :
    let settings : Settings := { secret := "k" }
    let key := settings.watchedKey
    let value (id : UInt64) := Product.writeList [briefSale id]
    let events : List WatchSession.Event :=
      [.advance, .store (.put key (value 1)), .advance, .store .disconnect,
        .store (.put key (value 2)), .store (.delete key),
        .advance, .advance, .advance, .advance]
    ∃ launched, launch? settings {} = some launched ∧
      ∃ s, launched.run? events = some s ∧ s.watcher.phase = .following ∧ s.pending = [] ∧
        let later := s.store.history.drop launched.store.history.length
        s.watcher.catalogue.products = [briefSale 1] ∧
        (launched.watcher.catalogue.followAll key later).products = [briefSale 2] := by
  intro settings key value events
  have hrun : ∃ launched ∈ launch? settings {}, ∃ s ∈ launched.run? events,
      s.watcher.phase = .following ∧ s.pending = [] ∧
      s.watcher.catalogue.products = [briefSale 1] ∧
      (launched.watcher.catalogue.followAll key
        (s.store.history.drop launched.store.history.length)).products = [briefSale 2] := by
    decide +kernel
  exact hrun

end FlashSale.WatchSession
