import FlashSale.Proofs.Gateway.Launch
import FlashSale.Proofs.Watcher.Following

/-! # The watcher converges

    A gateway is launched against a store in memory, which then changes, breaks
    its streams and goes offline as it likes while the watcher takes its steps.
    What is served is never ahead of the store and never goes back.  Once the
    watcher has taken everything off its stream, a readable value that the
    store holds is what is served. -/

namespace FlashSale.WatchSession

variable {s s' : WatchSession} {known : Nat} {settings : Settings} {store : MemoryStore}

/-! ### Launches -/

/-- The session that starts when a gateway is launched against a store, if it
    is.  The watcher goes on from the next revision, so there must be one. -/
def launch? (settings : Settings) (store : MemoryStore) : Option WatchSession :=
  match Gateway.launch (m := StateM MemoryStore) (fun key store => store.get key) settings store with
  | (.ok g, store') =>
    if store.HasRoom then some { store := store', watcher := g.watcher } else none
  | (.error _, _) => none

/-- A launch is like the question of a watcher that knows of nothing yet. -/
def unlaunched (settings : Settings) (store : MemoryStore) : WatchSession :=
  { store
    watcher := { key := settings.watchedKey, maxRetries := settings.maxRetries, next := 0,
                 phase := .rereading } }

theorem launch?_eq_some (h : launch? settings store = some s) :
    store.HasRoom ∧ store.offline = false ∧ s = (unlaunched settings store).answerGet := by
  unfold launch? at h
  split at h
  · next g store' hlaunch =>
    obtain ⟨room, h⟩ := Option.ite_none_right_eq_some.mp h
    obtain rfl := Option.some.inj h
    obtain ⟨f, hget, rfl⟩ := Gateway.launch_store_eq_ok hlaunch
    refine ⟨room, ?_, ?_⟩
    · cases hoffline : store.offline with
      | true => simp [MemoryStore.get, hoffline] at hget
      | false => rfl
    · unfold answerGet unlaunched
      dsimp only
      rw [hget]
      rfl
  · cases h

theorem inStep_unlaunched (h : store.Consistent) : (unlaunched settings store).InStep 0 where
  consistent := h
  known_le := Nat.zero_le _
  settled := by
    intro kv hkv
    cases hkv
  served := Int.le_refl 0
  subscribing := by
    intro hphase
    cases hphase
  following := by
    intro hphase
    cases hphase

/-- A launched gateway knows all that has happened in the store. -/
theorem inStep_of_launch? (hstore : store.Consistent) (h : launch? settings store = some s) :
    s.InStep s.store.history.length ∧ s.watcher.key = settings.watchedKey := by
  obtain ⟨room, honline, rfl⟩ := launch?_eq_some h
  have hbefore : (unlaunched settings store).InStep 0 := inStep_unlaunched hstore
  have hadvanced := hbefore.answerGet rfl room
  have hknows : (unlaunched settings store).knows 0 .advance = store.history.length := by
    show (if store.offline then 0 else store.history.length) = _
    rw [honline]
    rfl
  have hhistory : (unlaunched settings store).answerGet.store.history = store.history :=
    (store.unchanged_get settings.watchedKey).history
  rw [hhistory, ← hknows]
  exact ⟨hadvanced.inStep, hadvanced.key⟩

/-! ### What is served -/

/-- What is served never goes back. -/
theorem Advanced.revision_le {told passed : List Change} {known' : Nat} (h : s.InStep known)
    (ha : s.Advanced known told passed s' known') :
    s.watcher.catalogue.revision ≤ s'.watcher.catalogue.revision := by
  rw [ha.catalogue]
  rcases Catalogue.revision_followAll s.watcher.catalogue s.watcher.key told with
    hsame | ⟨change, hmem, hrevision⟩
  · rw [hsame]
    exact Int64.le_refl _
  · -- What is served now was not known before, so it is newer than what was served.
    rw [hrevision]
    have hmem := List.mem_of_mem_filter (ha.sublist.subset hmem)
    rw [List.drop_take] at hmem
    have hnewer := ha.inStep.consistent.revision_of_mem_drop (List.mem_of_mem_take hmem)
    have := h.served
    exact Int64.le_iff_toInt_le.mpr (by omega)

/-- Once everything was taken off the stream, there is no news in the store. -/
theorem InStep.news_eq_nil (h : s.InStep known) (hphase : s.watcher.phase = .following)
    (hdrained : s.pending = []) : s.store.news s.watcher.key known = [] := by
  obtain ⟨n, hn, stream, hstream, hcarries⟩ := h.following hphase
  have hpending : s.pending = stream.pending := by simp [pending, hn, hstream]
  exact hcarries.eq_nil (hpending.symm.trans hdrained)

/-- Once everything was taken off the stream, publishing what the store holds
    would not alter what is served. -/
theorem InStep.publish_eq (h : s.InStep known) (hphase : s.watcher.phase = .following)
    (hdrained : s.pending = []) {kv : KeyValue}
    (hfind : s.store.find? s.watcher.key = some kv) :
    s.watcher.catalogue.publish kv = s.watcher.catalogue := by
  have hnews := h.news_eq_nil hphase hdrained
  unfold MemoryStore.news at hnews
  refine h.settled kv ?_
  -- Without news, what is stored is what the known changes have left.
  rw [← hfind, h.consistent.value]
  conv_rhs => rw [← List.take_append_drop known s.store.history, valueAfter_append, hnews]
  rfl

/-- Whatever happens to the store after a launch, what is served is not newer
    than the store and never gets older; and when the watcher follows a stream
    with nothing left on it, a readable value in the store is served. -/
theorem converges {before : List MemoryStore.Event} {launched : WatchSession}
    {events : List Event} (hstore : ({} : MemoryStore).run? before = some store)
    (hlaunch : launch? settings store = some launched) (hrun : launched.run? events = some s) :
    s.watcher.catalogue.revision ≤ s.store.revision ∧
      (∀ more later, s.run? more = some later →
        s.watcher.catalogue.revision ≤ later.watcher.catalogue.revision) ∧
      (s.watcher.phase = .following → s.pending = [] →
        ∀ kv products, s.store.find? settings.watchedKey = some kv →
          Product.readList kv.value = .ok products →
          s.watcher.catalogue = .ofProducts kv.revision products) := by
  obtain ⟨hstart, hkey⟩ := inStep_of_launch?
    (MemoryStore.consistent_empty.run? hstore) hlaunch
  obtain ⟨told, known, ha⟩ := hstart.run? hrun
  refine ⟨?_, ?_, ?_⟩
  · have hserved := ha.inStep.served
    have hknown := ha.inStep.known_le
    have hrevision := ha.inStep.consistent.revision
    exact Int64.le_iff_toInt_le.mpr (by omega)
  · intro more later hmore
    obtain ⟨more, known', ha'⟩ := ha.inStep.run? hmore
    exact ha'.revision_le ha.inStep
  · intro hphase hdrained kv products hfind hread
    rw [← hkey, ← ha.key] at hfind
    have hpublish := ha.inStep.publish_eq hphase hdrained hfind
    rw [← hpublish]
    simp [Catalogue.publish, hread]

/-- A product that is on sale for ten seconds. -/
def briefSale (id : UInt64) : Product :=
  { id, startTime := 0, endTime := 10, status := .normal, count := 1, left := 1 }

/-- One value comes over the stream; the next is stored while the stream is
    broken, and is served once the watcher has a stream again. -/
theorem converges_after_disconnect :
    let settings : Settings := { secret := "k" }
    let key := settings.watchedKey
    let value (id : UInt64) := Product.writeList [briefSale id]
    let store := ({} : MemoryStore).put key (value 1)
    let launched := (unlaunched settings store).answerGet
    let events : List Event :=
      [.advance, .store (.put key (value 2)), .advance, .store .disconnect,
        .store (.put key (value 3)), .advance, .advance, .advance, .advance]
    ({} : MemoryStore).run? [.put key (value 1)] = some store ∧
      launch? settings store = some launched ∧
      ∃ s, launched.run? events = some s ∧ s.watcher.phase = .following ∧ s.pending = [] ∧
        s.store.find? key = some { key, value := value 3, revision := 3 } ∧
        Product.readList (value 3) = .ok [briefSale 3] ∧
        s.watcher.catalogue = .ofProducts 3 [briefSale 3] := by
  intro settings key value store launched events
  have hstore : ({} : MemoryStore).run? [.put key (value 1)] = some store := rfl
  have hlaunch : launch? settings store = some launched := by decide +kernel
  have hread : Product.readList (value 3) = .ok [briefSale 3] := by decide +kernel
  obtain ⟨s, hrun, hphase, hdrained, hfind⟩ : ∃ s ∈ launched.run? events,
      s.watcher.phase = .following ∧ s.pending = [] ∧
      s.store.find? key = some { key, value := value 3, revision := 3 } := by
    decide +kernel
  obtain ⟨-, -, hserves⟩ := converges hstore hlaunch hrun
  exact ⟨hstore, hlaunch, s, hrun, hphase, hdrained, hfind, hread,
    hserves hphase hdrained _ _ hfind hread⟩

end FlashSale.WatchSession
