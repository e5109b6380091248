import FlashSale.Proofs.Store.Stream
import Mathlib.Data.List.Induction

/-! # What a store tells

    The changes that are made to a store are its history, and everything that
    the store tells is about this history.  A question is answered by what it
    has left under the key.  A stream is sent the part of it that concerns the
    key from a revision on: what happened before the stream was opened is sent
    at once, what happens later is sent when it happens, and nothing is missing
    and nothing comes twice where the two meet. -/

namespace FlashSale

/-! ### Reading a history -/

/-- The value was put under the key, and the key has not changed since. -/
def Holds (changes : List Change) (key : String) (kv : KeyValue) : Prop :=
  ∃ before after, changes = before ++ .put kv :: after ∧ kv.key = key ∧
    ∀ change ∈ after, change.key ≠ key

/-- The changes of a key from a revision on. -/
def changesFrom (key : String) (start : Int64) (changes : List Change) : List Change :=
  changes.filter fun change => change.key == key && decide (start ≤ change.revision)

theorem Change.value?_eq_some_iff {change : Change} {kv : KeyValue} :
    change.value? = some kv ↔ change = .put kv := by
  cases change with
  | put other => simp [value?]
  | delete key revision => simp [value?]

/-- What is stored is what is held. -/
theorem valueAfter_eq_some_iff {key : String} {changes : List Change} {kv : KeyValue} :
    valueAfter key changes = some kv ↔ Holds changes key kv := by
  -- The last change of the key is the first one from the end.
  have hlast : (changes.filter (·.key == key)).getLast? =
      changes.reverse.find? (·.key == key) := by
    rw [List.getLast?_eq_head?_reverse, ← List.filter_reverse, List.head?_filter]
  rw [valueAfter, hlast, Option.bind_eq_some_iff]
  simp only [Change.value?_eq_some_iff, exists_eq_right, List.find?_eq_some_iff_append]
  constructor
  · rintro ⟨hkey, after, before, hsplit, hafter⟩
    refine ⟨before.reverse, after.reverse, ?_, beq_iff_eq.mp hkey, fun change hmem => ?_⟩
    · rw [← List.reverse_reverse changes, hsplit]
      simp
    · simpa using hafter change (List.mem_reverse.mp hmem)
  · rintro ⟨before, after, rfl, hkey, hafter⟩
    refine ⟨beq_iff_eq.mpr hkey, after.reverse, before.reverse, by simp, fun change hmem => ?_⟩
    simpa using hafter change (List.mem_reverse.mp hmem)

namespace MemoryStore

/-! ### The history of events -/

/-- The change that an event makes after some changes, if it makes one.
    Revisions count the changes, and only what is held can be deleted. -/
def Event.change? (changes : List Change) : Event → Option Change
  | .put key value => some (.put { key, value, revision := .ofInt (changes.length + 1) })
  | .delete key =>
    if (valueAfter key changes).isSome then some (.delete key (.ofInt (changes.length + 1)))
    else none
  | _ => none

/-- The changes that events make, one after the other. -/
def changesOf (events : List Event) : List Change :=
  events.foldl (fun changes e => changes ++ (e.change? changes).toList) []

/-- Is the store offline after an event? -/
def Event.isOffline (before : Bool) : Event → Bool
  | .setOffline offline => offline
  | _ => before

/-- Is a new store offline after some events? -/
def offlineAfter (events : List Event) : Bool :=
  events.foldl Event.isOffline false

theorem changesOf_concat (events : List Event) (e : Event) :
    changesOf (events ++ [e]) = changesOf events ++ (e.change? (changesOf events)).toList :=
  List.foldl_concat ..

theorem run?_append {s : MemoryStore} {events more : List Event} :
    s.run? (events ++ more) = (s.run? events).bind (run? · more) := by
  induction events generalizing s with
  | nil => rfl
  | cons e rest ih =>
    rw [List.cons_append, run?, run?, Option.bind_assoc]
    exact congrArg _ (funext fun _ => ih)

/-- The last event of a run comes to what the others have left. -/
theorem run?_concat_eq_some {s s' : MemoryStore} {events : List Event} {e : Event} :
    s.run? (events ++ [e]) = some s' ↔
      ∃ before, s.run? events = some before ∧ before.step? e = some s' := by
  simp [run?_append, Option.bind_eq_some_iff, run?]

/-! ### What a step does -/

/-- What a step does to the history, to the streams that are there, and to the
    store being offline. -/
structure Stepped (s : MemoryStore) (e : Event) (s' : MemoryStore) : Prop where
  history : s'.history = s.history ++ (e.change? s.history).toList
  stream : ∀ (n : Nat) (stream : Subscription), s.streams[n]? = some stream →
    s'.streams[n]? = some (if e.breaks then stream.disconnect
      else (e.change? s.history).elim stream fun change => stream.offer change)
  offline : s'.offline = e.isOffline s.offline

section

variable {s s' : MemoryStore} {e : Event}

/-- The revision of the next change. -/
theorem Consistent.ofInt_next (h : s.Consistent) (room : s.HasRoom) :
    Int64.ofInt (s.history.length + 1) = s.revision + 1 := by
  rw [← h.revision, ← toInt_add_one room, Int64.ofInt_toInt]

theorem Changed.stepped {change : Change} (hc : s.Changed change s')
    (he : e.change? s.history = some change) (hbreaks : e.breaks = false)
    (hoffline : s'.offline = e.isOffline s.offline) : s.Stepped e s' where
  history := by rw [hc.history, he, Option.toList_some]
  stream n stream hstream := by
    rw [hc.streams, List.getElem?_map, hstream, he, hbreaks]
    rfl
  offline := hoffline

theorem stepped_disconnect (s : MemoryStore) : s.Stepped .disconnect s.disconnect where
  history := (List.append_nil _).symm
  stream n stream hstream := by
    show (s.streams.map Subscription.disconnect)[n]? = some stream.disconnect
    rw [List.getElem?_map, hstream, Option.map_some]
  offline := rfl

/-- What a step does, event by event. -/
theorem Consistent.stepped (h : s.Consistent) (hs : s.step? e = some s') : s.Stepped e s' := by
  cases e with
  | put key value =>
    simp only [MemoryStore.step?, Option.ite_none_right_eq_some, Option.some.injEq] at hs
    obtain ⟨room, rfl⟩ := hs
    refine (changed_put room key value).stepped ?_ rfl rfl
    rw [Event.change?, h.ofInt_next room]
  | delete key =>
    have hheld : (valueAfter key s.history).isSome = (s.find? key).isSome := by rw [h.value]
    simp only [MemoryStore.step?] at hs
    split at hs
    · next hdelete =>
      -- There was nothing to delete.
      obtain rfl := Option.some.inj hs
      have hnone : (Event.delete key).change? s.history = none := by
        simp only [delete?, ite_eq_right_iff, reduceCtorEq, imp_false] at hdelete
        rw [Event.change?, hheld, if_neg hdelete]
      refine ⟨?_, fun n stream hstream => ?_, rfl⟩
      · rw [hnone, Option.toList_none, List.append_nil]
      · rw [hnone]
        exact hstream
    · next hdelete =>
      simp only [Option.ite_none_right_eq_some, Option.some.injEq] at hs
      obtain ⟨room, rfl⟩ := hs
      have hchanged := changed_delete room hdelete
      simp only [delete?, Option.ite_none_right_eq_some] at hdelete
      obtain ⟨hsome, hstore⟩ := hdelete
      refine hchanged.stepped ?_ rfl ?_
      · rw [Event.change?, hheld, if_pos hsome, h.ofInt_next room]
      · rw [← Option.some.inj hstore]
        rfl
  | disconnect =>
    obtain rfl := Option.some.inj hs
    exact s.stepped_disconnect
  | setOffline offline =>
    obtain rfl := Option.some.inj hs
    cases offline with
    | true => exact { s.stepped_disconnect with offline := rfl }
    | false => exact ⟨(List.append_nil _).symm, fun _ _ hstream => hstream, rfl⟩
  | get key =>
    obtain rfl := Option.some.inj hs
    unfold get
    split
    · exact ⟨(List.append_nil _).symm, fun _ _ hstream => hstream, rfl⟩
    · exact ⟨(List.append_nil _).symm, fun _ _ hstream => hstream, rfl⟩
  | watch key start =>
    obtain rfl := Option.some.inj hs
    unfold watch
    split
    · exact ⟨(List.append_nil _).symm, fun _ _ hstream => hstream, rfl⟩
    · refine ⟨(List.append_nil _).symm, fun n stream hstream => ?_, rfl⟩
      exact (List.getElem?_append_left (List.getElem?_eq_some_iff.mp hstream).1).trans hstream

/-- An event stops the program only if it makes a change that finds no room. -/
theorem Consistent.exists_step? (h : s.Consistent)
    (hroom : ∀ change, e.change? s.history = some change → s.HasRoom) :
    ∃ s', s.step? e = some s' := by
  cases e with
  | put key value => exact ⟨_, if_pos (hroom _ rfl)⟩
  | delete key =>
    cases hdelete : s.delete? key with
    | none => exact ⟨s, by simp only [MemoryStore.step?, hdelete]⟩
    | some next =>
      simp only [delete?, Option.ite_none_right_eq_some] at hdelete
      have hheld : (valueAfter key s.history).isSome := by rw [← h.value, hdelete.1]
      have room := hroom _ (if_pos hheld)
      exact ⟨next, by simp [MemoryStore.step?, delete?, hdelete, room]⟩
  | disconnect => exact ⟨_, rfl⟩
  | setOffline offline => exact ⟨_, rfl⟩
  | get key => exact ⟨_, rfl⟩
  | watch key start => exact ⟨_, rfl⟩

/-- The history of a run is that of its events. -/
theorem history_of_run? {events : List Event} (hrun : ({} : MemoryStore).run? events = some s) :
    s.history = changesOf events ∧ s.offline = offlineAfter events := by
  induction events using List.reverseRecOn generalizing s with
  | nil =>
    obtain rfl := Option.some.inj hrun
    exact ⟨rfl, rfl⟩
  | append_singleton events e ih =>
    obtain ⟨before, hbefore, hstep⟩ := run?_concat_eq_some.mp hrun
    have hstepped := (consistent_empty.run? hbefore).stepped hstep
    obtain ⟨hhistory, hoffline⟩ := ih hbefore
    rw [hstepped.history, hstepped.offline, hhistory, hoffline, changesOf_concat, offlineAfter,
      offlineAfter, List.foldl_concat]
    exact ⟨rfl, rfl⟩

/-- There is room for all changes that a revision can count. -/
theorem exists_run? {events : List Event} (hcount : (changesOf events).length < 2 ^ 63) :
    ∃ s, ({} : MemoryStore).run? events = some s := by
  induction events using List.reverseRecOn with
  | nil => exact ⟨_, rfl⟩
  | append_singleton events e ih =>
    rw [changesOf_concat, List.length_append] at hcount
    obtain ⟨before, hbefore⟩ := ih (by omega)
    have hconsistent := consistent_empty.run? hbefore
    have hhistory := (history_of_run? hbefore).1
    have hroom (change : Change) (he : e.change? before.history = some change) :
        before.HasRoom := by
      rw [← hhistory, he, Option.toList_some, List.length_singleton] at hcount
      have hmax : Int64.maxValue.toInt = 2 ^ 63 - 1 := rfl
      rw [HasRoom, Int64.lt_iff_toInt_lt, hconsistent.revision, hmax]
      omega
    obtain ⟨s, hs⟩ := hconsistent.exists_step? hroom
    exact ⟨s, run?_concat_eq_some.mpr ⟨before, hbefore, hs⟩⟩

end

end MemoryStore

/-! ### What a stream was sent -/

namespace Subscription

/-- The stream is open, and it was sent the changes of the key from the
    revision on. -/
structure Follows (stream : Subscription) (key : String) (start : Int64)
    (changes : List Change) : Prop where
  isOf : stream.key = key
  held : stream.held = true
  attached : stream.attached = true
  sent : stream.sent = (changesFrom key start changes).map .ok

/-- The stream was broken, and an error is the last thing that it was sent. -/
structure Broke (stream : Subscription) (key : String) (start : Int64)
    (changes : List Change) : Prop where
  isOf : stream.key = key
  attached : stream.attached = false
  sent : stream.sent = (changesFrom key start changes).map .ok ++ [.error .closed]

variable {stream : Subscription} {key : String} {start : Int64} {changes : List Change}

/-- A change that comes late enough is sent if it is one of the key. -/
theorem Follows.offer (h : stream.Follows key start changes) {change : Change}
    (hlate : start ≤ change.revision) :
    (stream.offer change).Follows key start (changes ++ [change]) := by
  have hmore : changesFrom key start (changes ++ [change]) =
      changesFrom key start changes ++ if change.key = key then [change] else [] := by
    by_cases hkey : change.key = key
    · simp [changesFrom, hkey, hlate]
    · simp [changesFrom, hkey]
  by_cases hkey : change.key = key
  · have hoffer : stream.offer change = { stream with sent := stream.sent ++ [.ok change] } := by
      simp [Subscription.offer, h.attached, h.held, h.isOf, hkey]
    rw [hoffer]
    refine ⟨h.isOf, h.held, h.attached, ?_⟩
    rw [hmore, if_pos hkey, List.map_append, ← h.sent, List.map_singleton]
  · have hoffer : stream.offer change = stream := by
      simp [Subscription.offer, h.isOf, Ne.symm hkey]
    rw [hoffer]
    refine ⟨h.isOf, h.held, h.attached, ?_⟩
    rw [hmore, if_neg hkey, List.append_nil, h.sent]

theorem Follows.disconnect (h : stream.Follows key start changes) :
    stream.disconnect.Broke key start changes := by
  have hdisconnect : stream.disconnect =
      { stream with attached := false, sent := stream.sent ++ [.error .closed] } := by
    simp [Subscription.disconnect, h.attached, h.held]
  rw [hdisconnect]
  refine ⟨h.isOf, rfl, ?_⟩
  rw [h.sent]

/-- A stream that was broken is sent nothing more. -/
theorem offer_of_detached (h : stream.attached = false) (change : Change) :
    stream.offer change = stream := by
  simp [Subscription.offer, h]

theorem disconnect_of_detached (h : stream.attached = false) : stream.disconnect = stream := by
  simp [Subscription.disconnect, h]

end Subscription

namespace MemoryStore

variable {s s' : MemoryStore} {n : Nat} {key : String} {start : Int64} {events : List Event}

/-- The stream with a number is open and follows the history. -/
structure Sends (s : MemoryStore) (n : Nat) (key : String) (start : Int64) : Prop where
  /-- Whatever changes next is late enough to be sent. -/
  start_le : start.toInt ≤ s.history.length + 1
  stream : ∃ stream, s.streams[n]? = some stream ∧ stream.Follows key start s.history

/-- A new stream is sent at once what happened before. -/
theorem Consistent.sends_watch (h : s.Consistent) (hstart : start.toInt ≤ s.revision.toInt + 1)
    (hwatch : (s.watch key start).1 = .ok n) : (s.watch key start).2.Sends n key start := by
  unfold watch at hwatch ⊢
  split at hwatch
  · cases hwatch
  · next honline =>
    obtain rfl := Except.ok.inj hwatch
    rw [if_neg honline]
    exact {
      start_le := h.revision ▸ hstart
      stream := ⟨_, List.getElem?_concat_length, rfl, rfl, rfl, rfl⟩ }

/-- The change of an event is counted behind the history. -/
theorem Consistent.revision_of_change? (h : s.Consistent) {e : Event} {change : Change}
    (hs : s.step? e = some s') (he : e.change? s.history = some change) :
    change.revision.toInt = s.history.length + 1 := by
  have hat : s'.history[s.history.length]? = some change := by
    rw [(h.stepped hs).history, he, Option.toList_some, List.getElem?_concat_length]
  exact (h.step? hs).numbered _ change hat

theorem Sends.step? {e : Event} (hsends : s.Sends n key start) (h : s.Consistent)
    (hs : s.step? e = some s') (he : e.breaks = false) : s'.Sends n key start := by
  obtain ⟨hstart, stream, hstream, hfollows⟩ := hsends
  have hstepped := h.stepped hs
  have hstream' := hstepped.stream n stream hstream
  rw [he, if_neg Bool.false_ne_true] at hstream'
  have hhistory := hstepped.history
  cases hchange : e.change? s.history with
  | none =>
    rw [hchange] at hstream' hhistory
    rw [Option.toList_none, List.append_nil] at hhistory
    exact ⟨hhistory ▸ hstart, stream, hstream', hhistory ▸ hfollows⟩
  | some change =>
    have hrevision := h.revision_of_change? hs hchange
    have hlate : start ≤ change.revision := Int64.le_iff_toInt_le.mpr (by omega)
    rw [hchange] at hstream' hhistory
    rw [Option.toList_some] at hhistory
    refine ⟨?_, _, hstream', hhistory ▸ hfollows.offer hlate⟩
    rw [hhistory, List.length_append, List.length_singleton]
    omega

/-- What breaks the streams breaks this one, behind all that it was sent. -/
theorem Sends.breaks {e : Event} (hsends : s.Sends n key start) (h : s.Consistent)
    (hs : s.step? e = some s') (he : e.breaks = true) :
    ∃ stream, s'.streams[n]? = some stream ∧ stream.Broke key start s.history := by
  obtain ⟨-, stream, hstream, hfollows⟩ := hsends
  have hstream' := (h.stepped hs).stream n stream hstream
  rw [he, if_pos rfl] at hstream'
  exact ⟨_, hstream', hfollows.disconnect⟩

/-- Nothing happens any more to a stream that was broken. -/
theorem stream_of_detached (h : s.Consistent) {stream : Subscription}
    (hstream : s.streams[n]? = some stream) (hdetached : stream.attached = false)
    (hrun : s.run? events = some s') : s'.streams[n]? = some stream := by
  induction events generalizing s with
  | nil =>
    obtain rfl := Option.some.inj hrun
    exact hstream
  | cons e rest ih =>
    obtain ⟨next, hnext, hrest⟩ := Option.bind_eq_some_iff.mp hrun
    refine ih (h.step? hnext) ?_ hrest
    rw [(h.stepped hnext).stream n stream hstream, Subscription.disconnect_of_detached hdetached]
    cases e.change? s.history with
    | none => simp
    | some change => simp [Subscription.offer_of_detached hdetached]

/-- The stream follows the history until it is broken, and then stays as it
    is. -/
theorem Sends.sent (hsends : s.Sends n key start) (h : s.Consistent)
    (hrun : s.run? events = some s') :
    ∃ stream, s'.streams[n]? = some stream ∧
      ((∀ e ∈ events, e.breaks = false) → stream.Follows key start s'.history) ∧
      ∀ quiet e rest, events = quiet ++ e :: rest → (∀ e ∈ quiet, e.breaks = false) →
        e.breaks = true →
        ∃ broken, s.run? quiet = some broken ∧ stream.Broke key start broken.history := by
  induction events generalizing s with
  | nil =>
    obtain rfl := Option.some.inj hrun
    obtain ⟨-, stream, hstream, hfollows⟩ := hsends
    exact ⟨stream, hstream, fun _ => hfollows, fun quiet e rest hsplit => by simp at hsplit⟩
  | cons first others ih =>
    obtain ⟨next, hnext, hothers⟩ := Option.bind_eq_some_iff.mp hrun
    cases hfirst : first.breaks with
    | true =>
      -- This is the event that breaks the stream.
      obtain ⟨stream, hstream, hbroke⟩ := hsends.breaks h hnext hfirst
      refine ⟨stream, stream_of_detached (h.step? hnext) hstream hbroke.attached hothers,
        fun hquiet => ?_, fun quiet e rest hsplit hquiet _ => ?_⟩
      · simp [hquiet first List.mem_cons_self] at hfirst
      · cases quiet with
        | nil => exact ⟨s, rfl, hbroke⟩
        | cons q qs =>
          obtain ⟨rfl, -⟩ := List.cons.inj hsplit
          simp [hquiet first List.mem_cons_self] at hfirst
    | false =>
      obtain ⟨stream, hstream, hfollows, hbreaks⟩ :=
        ih (hsends.step? h hnext hfirst) (h.step? hnext) hothers
      refine ⟨stream, hstream, fun hquiet => hfollows (List.forall_mem_cons.mp hquiet).2,
        fun quiet e rest hsplit hquiet he => ?_⟩
      cases quiet with
      | nil =>
        obtain ⟨rfl, -⟩ := List.cons.inj hsplit
        simp [hfirst] at he
      | cons q qs =>
        obtain ⟨rfl, hothersSplit⟩ := List.cons.inj hsplit
        obtain ⟨broken, hbroken, hbroke⟩ :=
          hbreaks qs e rest hothersSplit (List.forall_mem_cons.mp hquiet).2 he
        refine ⟨broken, ?_, hbroke⟩
        rw [MemoryStore.run?, hnext]
        exact hbroken

/-! ### The whole of it -/

/-- What a store tells after some events. -/
structure Tells (s : MemoryStore) (events : List Event) : Prop where
  /-- The revision is the number of changes. -/
  counted : s.revision.toInt = (changesOf events).length
  numbered : ∀ (i : Nat) (change : Change), (changesOf events)[i]? = some change →
    change.revision.toInt = i + 1
  offline : s.offline = offlineAfter events
  /-- A question is answered by what is held under the key. -/
  answers : s.offline = false → ∀ key, ∃ kv?,
    s.get key = (.ok { kv := kv?, revision := s.revision }, { s with gets := s.gets + 1 }) ∧
      ∀ kv, kv? = some kv ↔ Holds (changesOf events) key kv
  /-- What is refused changes nothing. -/
  refuses : s.offline = true → ∀ key start,
    s.get key = (.error offlineError, s) ∧ s.watch key start = (.error offlineError, s)
  /-- Nor does deleting what is not held. -/
  keeps : ∀ key, (∀ kv, ¬Holds (changesOf events) key kv) → s.step? (.delete key) = some s
  /-- A stream that was opened one revision ahead at most was sent the changes
      of its key from its revision on, until it was broken. -/
  sends : ∀ before key start after opened n, events = before ++ .watch key start :: after →
    ({} : MemoryStore).run? before = some opened → (opened.watch key start).1 = .ok n →
    start.toInt ≤ opened.revision.toInt + 1 →
    ∃ stream, s.streams[n]? = some stream ∧
      ((∀ e ∈ after, e.breaks = false) → stream.Follows key start (changesOf events)) ∧
      ∀ quiet e rest, after = quiet ++ e :: rest → (∀ e ∈ quiet, e.breaks = false) →
        e.breaks = true → stream.Broke key start (changesOf (before ++ .watch key start :: quiet))

/-- Whatever is done to a new store, as long as a revision can count it, the
    store tells the history of what was done. -/
theorem exists_run_tells_of_length_changesOf_lt (hcount : (changesOf events).length < 2 ^ 63) :
    ∃ s, ({} : MemoryStore).run? events = some s ∧ s.Tells events := by
  obtain ⟨s, hrun⟩ := exists_run? hcount
  obtain ⟨hhistory, hoffline⟩ := history_of_run? hrun
  have hconsistent := consistent_empty.run? hrun
  have hholds (key : String) (kv : KeyValue) :
      s.find? key = some kv ↔ Holds (changesOf events) key kv := by
    rw [hconsistent.value, hhistory, valueAfter_eq_some_iff]
  refine ⟨s, hrun, ?_, ?_, hoffline, fun honline key => ?_, fun hoff key start => ?_,
    fun key hnone => ?_, ?_⟩
  · rw [hconsistent.revision, hhistory]
  · rw [← hhistory]
    exact hconsistent.numbered
  · refine ⟨s.find? key, ?_, hholds key⟩
    rw [get, honline]
    rfl
  · rw [get, watch, hoff]
    exact ⟨rfl, rfl⟩
  · have hfind : s.find? key = none := by
      refine Option.eq_none_iff_forall_ne_some.mpr fun kv hkv => hnone kv ((hholds key kv).mp hkv)
    simp [MemoryStore.step?, delete?, hfind]
  · rintro before key start after opened n rfl hbefore hwatch hstart
    have hopened := consistent_empty.run? hbefore
    -- The run goes on from the store as it is when the stream has been opened.
    have hon {more : List Event} : ({} : MemoryStore).run? (before ++ .watch key start :: more) =
        (opened.watch key start).2.run? more := by
      rw [run?_append, hbefore]
      rfl
    rw [hon] at hrun
    obtain ⟨stream, hstream, hfollows, hbreaks⟩ :=
      (hopened.sends_watch hstart hwatch).sent (hopened.step? (e := .watch key start) rfl) hrun
    refine ⟨stream, hstream, hhistory ▸ hfollows, fun quiet e rest hsplit hquiet he => ?_⟩
    obtain ⟨broken, hbroken, hbroke⟩ := hbreaks quiet e rest hsplit hquiet he
    rw [← hon] at hbroken
    exact (history_of_run? hbroken).1 ▸ hbroke

/-- A stream is opened at the revision of a change that was made before, is
    sent a change after that, and is broken; of two more changes it hears
    nothing.  What had been deleted is not found any more. -/
theorem exists_run_tells_of_length_changesOf_lt_after_break :
    let history : List Change :=
      [.put { key := "/k", value := [1], revision := 1 },
        .put { key := "/k", value := [2], revision := 2 },
        .put { key := "/other", value := [], revision := 3 },
        .delete "/k" 4, .put { key := "/k", value := [3], revision := 5 }]
    let before : List Event := [.put "/k" [1], .put "/k" [2]]
    let after : List Event := [.put "/other" [], .delete "/k", .delete "/k", .setOffline true,
      .put "/k" [3], .setOffline false]
    let events := before ++ .watch "/k" 2 :: after
    changesOf events = history ∧ (changesOf events).length < 2 ^ 63 ∧
      ∃ s, ({} : MemoryStore).run? events = some s ∧ s.revision = 5 ∧
        (s.get "/k").1 = .ok { kv := some { key := "/k", value := [3], revision := 5 }
                               revision := 5 } ∧
        ∃ stream, s.streams[0]? = some stream ∧
          stream.sent = [.ok (.put { key := "/k", value := [2], revision := 2 }),
            .ok (.delete "/k" 4), .error .closed] := by
  intro history before after events
  have hhistory : changesOf events = history := by decide +kernel
  have hcount : (changesOf events).length < 2 ^ 63 := by
    rw [hhistory]
    decide
  obtain ⟨s, hrun, htells⟩ := exists_run_tells_of_length_changesOf_lt hcount
  have hrevision : s.revision = 5 := by
    refine Int64.toInt_inj.mp ?_
    rw [htells.counted, hhistory]
    decide
  refine ⟨hhistory, hcount, s, hrun, hrevision, ?_, ?_⟩
  · have honline : s.offline = false := htells.offline
    obtain ⟨kv?, hget, hheld⟩ := htells.answers honline "/k"
    have hvalue : kv? = some { key := "/k", value := [3], revision := 5 } :=
      (hheld _).mpr ⟨history.dropLast, [], hhistory, rfl, by simp⟩
    rw [hget, hvalue, hrevision]
  · obtain ⟨stream, hstream, -, hbreaks⟩ :=
      htells.sends before "/k" 2 after _ 0 rfl rfl rfl (by decide)
    have hbroke := hbreaks (after.take 3) (.setOffline true) (after.drop 4) rfl (by decide) rfl
    refine ⟨stream, hstream, ?_⟩
    rw [hbroke.sent]
    decide +kernel

end MemoryStore

end FlashSale
