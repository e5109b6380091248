import FlashSale.Proofs.Word
import FlashSale.Store.Memory
import Mathlib.Data.List.Basic
import Mathlib.Data.List.Nodup

/-! # The history of a store

    The store in memory counts its changes and keeps them all, so what it holds
    under a key is what the last change of the key has left there, and the
    changes from a revision on are the rest of the history behind it.

    Revisions are counted by a machine integer.  A change that the counter has
    no room for does not happen: the program stops there. -/

namespace FlashSale

/-! ### What changes leave behind -/

/-- What a change leaves under its key. -/
def Change.value? : Change → Option KeyValue
  | .put kv => some kv
  | .delete _ _ => none

/-- What is stored under a key after some changes. -/
def valueAfter (key : String) (changes : List Change) : Option KeyValue :=
  (changes.filter (·.key == key)).getLast?.bind Change.value?

theorem valueAfter_append (key : String) (changes more : List Change) :
    valueAfter key (changes ++ more) =
      match (more.filter (·.key == key)).getLast? with
      | none => valueAfter key changes
      | some change => change.value? := by
  unfold valueAfter
  rw [List.filter_append, List.getLast?_append]
  cases (more.filter (·.key == key)).getLast? <;> rfl

theorem valueAfter_append_singleton (key : String) (changes : List Change) (change : Change) :
    valueAfter key (changes ++ [change]) =
      if change.key = key then change.value? else valueAfter key changes := by
  rw [valueAfter_append]
  by_cases h : change.key = key <;> simp [h]

namespace MemoryStore

/-! ### Steps of a store -/

/-- Can the revision be counted on? -/
def HasRoom (s : MemoryStore) : Prop :=
  s.revision < Int64.maxValue

instance (s : MemoryStore) : Decidable s.HasRoom :=
  inferInstanceAs (Decidable (_ < _))

/-- What is done to a store. -/
inductive Event where
  | put (key : String) (value : Text.Bytes)
  | delete (key : String)
  | disconnect
  | setOffline (offline : Bool)
  | get (key : String)
  | watch (key : String) (start : Int64)
  deriving DecidableEq

/-- Does it break the streams? -/
def Event.breaks : Event → Bool
  | .disconnect => true
  | .setOffline offline => offline
  | _ => false

/-- The store after an event, unless a change finds no room. -/
def step? (s : MemoryStore) : Event → Option MemoryStore
  | .put key value => if s.HasRoom then some (s.put key value) else none
  | .delete key =>
    match s.delete? key with
    | none => some s
    | some s' => if s.HasRoom then some s' else none
  | .disconnect => some s.disconnect
  | .setOffline offline => some (s.setOffline offline)
  | .get key => some (s.get key).2
  | .watch key start => some (s.watch key start).2

/-- The store after events that come one after the other. -/
def run? (s : MemoryStore) : List Event → Option MemoryStore
  | [] => some s
  | e :: rest => (s.step? e).bind (run? · rest)

/-- A store with one change more. -/
structure Changed (s : MemoryStore) (change : Change) (s' : MemoryStore) : Prop where
  room : s.HasRoom
  number : change.revision = s.revision + 1
  revision : s'.revision = s.revision + 1
  history : s'.history = s.history ++ [change]
  streams : s'.streams = s.streams.map (·.offer change)
  find? : ∀ key, s'.find? key = if change.key = key then change.value? else s.find? key

/-- A store with the same history, which may have lost its streams or have got
    one more. -/
structure Unchanged (s s' : MemoryStore) : Prop where
  revision : s'.revision = s.revision
  history : s'.history = s.history
  find? : ∀ key, s'.find? key = s.find? key
  streams : s'.streams = s.streams ∨ s'.streams = s.streams.map Subscription.disconnect ∨
    ∃ stream, s'.streams = s.streams ++ [stream]

theorem find?_without (s : MemoryStore) (key other : String) :
    (s.without key).find? (fun kv => kv.key == other) =
      if key = other then none else s.find? other := by
  unfold without MemoryStore.find?
  rw [List.find?_filter]
  split
  · next h =>
    subst h
    simp [List.find?_eq_none]
  · next h =>
    congr 1
    funext kv
    by_cases hkv : kv.key = other
    · simp [hkv, Ne.symm h]
    · simp [hkv]

theorem changed_put {s : MemoryStore} (room : s.HasRoom) (key : String) (value : Text.Bytes) :
    s.Changed (.put { key, value, revision := s.revision + 1 }) (s.put key value) where
  room := room
  number := rfl
  revision := rfl
  history := rfl
  streams := rfl
  find? other := by
    show List.find? _ (_ :: s.without key) = _
    rw [List.find?_cons, find?_without]
    by_cases h : key = other
    · simp [h, Change.key, Change.value?]
    · have hne : (key == other) = false := by simpa using h
      simp [h, hne, Change.key]

theorem changed_delete {s s' : MemoryStore} (room : s.HasRoom) {key : String}
    (h : s.delete? key = some s') : s.Changed (.delete key (s.revision + 1)) s' := by
  simp only [delete?, Option.ite_none_right_eq_some] at h
  obtain rfl := Option.some.inj h.2
  exact {
    room := room
    number := rfl
    revision := rfl
    history := rfl
    streams := rfl
    find? := fun other => find?_without s key other }

theorem unchanged_get (s : MemoryStore) (key : String) : s.Unchanged (s.get key).2 := by
  unfold get
  split <;> exact ⟨rfl, rfl, fun _ => rfl, .inl rfl⟩

theorem unchanged_watch (s : MemoryStore) (key : String) (start : Int64) :
    s.Unchanged (s.watch key start).2 := by
  unfold watch
  split
  · exact ⟨rfl, rfl, fun _ => rfl, .inl rfl⟩
  · exact ⟨rfl, rfl, fun _ => rfl, .inr (.inr ⟨_, rfl⟩)⟩

theorem unchanged_setOffline (s : MemoryStore) (offline : Bool) :
    s.Unchanged (s.setOffline offline) := by
  unfold setOffline
  dsimp only
  split
  · exact ⟨rfl, rfl, fun _ => rfl, .inr (.inl rfl)⟩
  · exact ⟨rfl, rfl, fun _ => rfl, .inl rfl⟩

/-- Whatever is done to a store, it makes one change or none. -/
theorem step?_cases {s s' : MemoryStore} {e : Event} (h : s.step? e = some s') :
    (∃ change, s.Changed change s') ∨ s.Unchanged s' := by
  cases e with
  | put key value =>
    simp only [step?, Option.ite_none_right_eq_some, Option.some.injEq] at h
    obtain ⟨room, rfl⟩ := h
    exact .inl ⟨_, changed_put room key value⟩
  | delete key =>
    simp only [step?] at h
    split at h
    · obtain rfl := Option.some.inj h
      exact .inr ⟨rfl, rfl, fun _ => rfl, .inl rfl⟩
    · next hdelete =>
      simp only [Option.ite_none_right_eq_some, Option.some.injEq] at h
      obtain ⟨room, rfl⟩ := h
      exact .inl ⟨_, changed_delete room hdelete⟩
  | disconnect =>
    obtain rfl := Option.some.inj h
    exact .inr ⟨rfl, rfl, fun _ => rfl, .inr (.inl rfl)⟩
  | setOffline offline =>
    obtain rfl := Option.some.inj h
    exact .inr (s.unchanged_setOffline offline)
  | get key =>
    obtain rfl := Option.some.inj h
    exact .inr (s.unchanged_get key)
  | watch key start =>
    obtain rfl := Option.some.inj h
    exact .inr (s.unchanged_watch key start)

/-! ### Consistent stores -/

/-- The revision counts the history, the changes in it are numbered from one,
    and what is found under a key is what they have left there. -/
structure Consistent (s : MemoryStore) : Prop where
  revision : s.revision.toInt = s.history.length
  numbered : ∀ (i : Nat) (change : Change), s.history[i]? = some change →
    change.revision.toInt = i + 1
  value : ∀ key, s.find? key = valueAfter key s.history

theorem consistent_empty : ({} : MemoryStore).Consistent where
  revision := rfl
  numbered := by
    intro i change h
    simp at h
  value := by
    intro key
    rfl

theorem Consistent.changed {s s' : MemoryStore} {change : Change} (h : s.Consistent)
    (hc : s.Changed change s') : s'.Consistent where
  revision := by
    rw [hc.revision, hc.history, toInt_add_one hc.room, h.revision]
    simp
  numbered := by
    intro i other hi
    rw [hc.history, List.getElem?_append] at hi
    split at hi
    · exact h.numbered i other hi
    · -- Behind the old history there is only the new change.
      obtain ⟨hzero, rfl⟩ : i - s.history.length = 0 ∧ change = other := by
        rw [List.getElem?_singleton] at hi
        simpa using hi
      rw [hc.number, toInt_add_one hc.room, h.revision]
      omega
  value := by
    intro key
    rw [hc.find?, hc.history, valueAfter_append_singleton, h.value]

theorem Consistent.unchanged {s s' : MemoryStore} (h : s.Consistent) (hu : s.Unchanged s') :
    s'.Consistent where
  revision := by rw [hu.revision, hu.history, h.revision]
  numbered := by rw [hu.history]; exact h.numbered
  value := by
    intro key
    rw [hu.find?, hu.history, h.value]

/-- What happens on a stream is no concern of the history. -/
theorem Consistent.updateStream {s : MemoryStore} (h : s.Consistent) (n : Nat)
    (f : Subscription → Subscription) : (s.updateStream n f).Consistent :=
  ⟨h.revision, h.numbered, h.value⟩

theorem Consistent.step? {s s' : MemoryStore} {e : Event} (h : s.Consistent)
    (hs : s.step? e = some s') : s'.Consistent := by
  rcases step?_cases hs with ⟨change, hc⟩ | hu
  · exact h.changed hc
  · exact h.unchanged hu

theorem Consistent.run? {s s' : MemoryStore} {events : List Event} (h : s.Consistent)
    (hrun : s.run? events = some s') : s'.Consistent := by
  induction events generalizing s with
  | nil =>
    obtain rfl := Option.some.inj hrun
    exact h
  | cons e rest ih =>
    obtain ⟨next, hnext, hrest⟩ := Option.bind_eq_some_iff.mp hrun
    exact ih (h.step? hnext) hrest

/-! ### Parts of the history -/

/-- The changes of a key behind the first `known` changes of the store. -/
def news (s : MemoryStore) (key : String) (known : Nat) : List Change :=
  (s.history.drop known).filter (·.key == key)

theorem Consistent.revision_of_mem_take {s : MemoryStore} (h : s.Consistent) {known : Nat}
    {change : Change} (hmem : change ∈ s.history.take known) :
    change.revision.toInt ≤ known := by
  obtain ⟨i, hi⟩ := List.mem_iff_getElem?.mp hmem
  rw [List.getElem?_take] at hi
  split at hi
  · have := h.numbered i change hi
    omega
  · simp at hi

theorem Consistent.revision_of_mem_drop {s : MemoryStore} (h : s.Consistent) {known : Nat}
    {change : Change} (hmem : change ∈ s.history.drop known) :
    known < change.revision.toInt := by
  obtain ⟨i, hi⟩ := List.mem_iff_getElem?.mp hmem
  rw [List.getElem?_drop] at hi
  have := h.numbered _ change hi
  omega

/-- No two changes have one revision. -/
theorem Consistent.nodup_revisions {s : MemoryStore} (h : s.Consistent) :
    (s.history.map Change.revision).Nodup := by
  refine List.nodup_iff_getElem?_ne_getElem?.mpr fun i j hlt hj heq => ?_
  rw [List.length_map] at hj
  rw [List.getElem?_map, List.getElem?_map, List.getElem?_eq_getElem (by omega),
    List.getElem?_eq_getElem hj] at heq
  have hi := h.numbered i _ (List.getElem?_eq_getElem (by omega))
  have hj := h.numbered j _ (List.getElem?_eq_getElem hj)
  rw [Option.some.inj heq] at hi
  omega

/-- Asking for the changes from a revision on gives the rest of the history. -/
theorem Consistent.changesSince_eq {s : MemoryStore} (h : s.Consistent) {known : Nat}
    {start : Int64} (hstart : start.toInt = known + 1) (key : String) :
    s.changesSince key start = s.news key known := by
  unfold changesSince news
  conv_lhs => rw [← List.take_append_drop known s.history]
  rw [List.filter_append]
  -- What is known comes before the revision asked for, and all the rest from it on.
  have hold : (s.history.take known).filter
      (fun change => change.key == key && decide (start ≤ change.revision)) = [] := by
    refine List.filter_eq_nil_iff.mpr fun change hmem => ?_
    have := h.revision_of_mem_take hmem
    simp only [Bool.and_eq_true, decide_eq_true_eq, Int64.le_iff_toInt_le, not_and]
    omega
  rw [hold, List.nil_append]
  refine List.filter_congr fun change hmem => ?_
  have := h.revision_of_mem_drop hmem
  have hle : start ≤ change.revision := Int64.le_iff_toInt_le.mpr (by omega)
  simp [hle]

/-- Between what is known and the next change of a key, other keys have
    changed at most. -/
theorem Consistent.news_cons {s : MemoryStore} (h : s.Consistent) {key : String} {known : Nat}
    (hknown : known ≤ s.history.length) {change : Change} {rest : List Change}
    (hnews : s.news key known = change :: rest) :
    change.key = key ∧ ∃ (others : List Change) (next : Nat),
      change.revision.toInt = next ∧ known < next ∧ next ≤ s.history.length ∧
      others.filter (·.key == key) = [] ∧
      s.history.take next = s.history.take known ++ others ++ [change] ∧
      s.news key next = rest := by
  obtain ⟨others, behind, hdrop, hothers, hkey, hrest⟩ := List.filter_eq_cons_iff.mp hnews
  -- The history is what is known, the changes of other keys, the change, and the rest.
  have hhistory : s.history = s.history.take known ++ others ++ [change] ++ behind := by
    conv_lhs => rw [← List.take_append_drop known s.history, hdrop]
    simp
  have hbefore : (s.history.take known ++ others).length = known + others.length := by
    rw [List.length_append, List.length_take, Nat.min_eq_left hknown]
  have hlength : (s.history.take known ++ others ++ [change]).length =
      known + others.length + 1 := by
    rw [List.length_append, hbefore, List.length_singleton]
  have hat : s.history[known + others.length]? = some change := by
    rw [hhistory, ← hbefore, List.append_assoc, List.getElem?_append_right (Nat.le_refl _),
      Nat.sub_self]
    rfl
  refine ⟨by simpa using hkey, others, known + others.length + 1, ?_, by omega, ?_, ?_, ?_, ?_⟩
  · rw [h.numbered _ change hat]
    omega
  · rw [hhistory, List.length_append, hlength]
    omega
  · exact List.filter_eq_nil_iff.mpr hothers
  · conv_lhs => rw [hhistory]
    exact List.take_left' hlength
  · unfold news
    rw [hhistory, List.drop_left' hlength, hrest]

end MemoryStore

end FlashSale
