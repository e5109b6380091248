import FlashSale.Proofs.Store.History

/-! # What a stream carries

    A stream that is held carries changes of its key in their order, each of
    them once.  A stream that was broken carries the first of them and then an
    error. -/

namespace FlashSale

namespace Subscription

/-- The stream is held, and what can be taken off it are the given changes of
    a key, or the first of them and an error when the stream was broken. -/
structure Carries (stream : Subscription) (key : String) (news : List Change) : Prop where
  key : stream.key = key
  held : stream.held
  taken : stream.taken ≤ stream.sent.length
  attached : stream.attached → stream.pending = news.map .ok
  broken : stream.attached = false → ∃ (told : List Change) (e : StoreError),
    told <+: news ∧ stream.pending = told.map .ok ++ [.error e]

variable {stream : Subscription} {key : String} {news : List Change}

/-! ### Taking messages off -/

/-- Nothing is left to be taken only when there is no news. -/
theorem Carries.eq_nil (h : stream.Carries key news) (hpending : stream.pending = []) :
    news = [] := by
  cases hattached : stream.attached with
  | true =>
    rw [h.attached hattached] at hpending
    simpa using hpending
  | false =>
    -- On a broken stream the error at least is left.
    obtain ⟨told, e, -, htold⟩ := h.broken hattached
    simp [htold] at hpending

/-- A change that can be taken is the first news. -/
theorem Carries.eq_cons (h : stream.Carries key news) {change : Change} {more : List Message}
    (hpending : stream.pending = .ok change :: more) : ∃ rest, news = change :: rest := by
  cases hattached : stream.attached with
  | true =>
    rw [h.attached hattached] at hpending
    obtain ⟨first, rest, rfl, hfirst, -⟩ := List.map_eq_cons_iff.mp hpending
    obtain rfl := Except.ok.inj hfirst
    exact ⟨rest, rfl⟩
  | false =>
    obtain ⟨told, e, hprefix, htold⟩ := h.broken hattached
    rw [htold] at hpending
    cases told with
    | nil =>
      -- Nothing but the error was left, and that is no change.
      simp at hpending
    | cons first others =>
      obtain ⟨rfl, -⟩ : first = change ∧ _ := by simpa using hpending
      obtain ⟨behind, rfl⟩ := hprefix
      exact ⟨others ++ behind, rfl⟩

theorem pending_takeOne {message : Message} {more : List Message}
    (hpending : stream.pending = message :: more) : stream.takeOne.pending = more := by
  -- What can be taken was sent and not taken yet, so the bound does not matter.
  have hlt : stream.taken < stream.sent.length := by
    by_contra hge
    simp [pending, List.drop_eq_nil_of_le (Nat.le_of_not_lt hge)] at hpending
  show stream.sent.drop (min (stream.taken + 1) stream.sent.length) = more
  rw [Nat.min_eq_left hlt, ← List.tail_drop]
  show stream.pending.tail = more
  rw [hpending, List.tail_cons]

theorem Carries.takeOne {change : Change} {rest : List Change} {more : List Message}
    (h : stream.Carries key (change :: rest)) (hpending : stream.pending = .ok change :: more) :
    stream.takeOne.Carries key rest where
  key := h.key
  held := h.held
  taken := Nat.min_le_right _ _
  attached hattached := by
    have hall := h.attached hattached
    rw [hpending, List.map_cons] at hall
    rw [pending_takeOne hpending]
    exact (List.cons.inj hall).2
  broken hattached := by
    obtain ⟨told, e, hprefix, htold⟩ := h.broken hattached
    rw [pending_takeOne hpending]
    cases told with
    | nil => simp [htold] at hpending
    | cons first others =>
      refine ⟨others, e, (List.cons_prefix_cons.mp hprefix).2, ?_⟩
      rw [hpending, List.map_cons, List.cons_append] at htold
      exact (List.cons.inj htold).2

/-! ### Sending -/

/-- A change of the store becomes news if it is one of the key. -/
theorem Carries.offer (h : stream.Carries key news) (change : Change) :
    (stream.offer change).Carries key (news ++ [change].filter (·.key == key)) := by
  unfold Subscription.offer
  split
  · -- The stream is attached and the change concerns it.
    next hsend =>
    obtain ⟨hattached, hkey⟩ : stream.attached = true ∧ stream.key = change.key := by
      simpa using hsend
    rw [if_pos h.held, List.filter_cons_of_pos (by simpa [h.key] using hkey.symm)]
    refine ⟨h.key, h.held, ?_, fun _ => ?_, fun hbroken => ?_⟩
    · have := h.taken
      simp only [List.length_append]
      omega
    · show (stream.sent ++ [Except.ok change]).drop stream.taken = _
      rw [List.drop_append_of_le_length h.taken]
      show stream.pending ++ _ = _
      rw [h.attached hattached]
      simp
    · simp [hattached] at hbroken
  · next hskip =>
    -- Nothing is sent: the change is one of another key, or the stream was broken before
    -- it and what it carries is still the first part of the news.
    refine ⟨h.key, h.held, h.taken, fun hattached => ?_, fun hbroken => ?_⟩
    · have hother : change.key ≠ key := by
        intro heq
        simp [hattached, h.key, heq] at hskip
      rw [List.filter_cons_of_neg (by simpa using hother)]
      simpa using h.attached hattached
    · obtain ⟨told, e, hprefix, htold⟩ := h.broken hbroken
      exact ⟨told, e, hprefix.trans (List.prefix_append _ _), htold⟩

theorem Carries.disconnect (h : stream.Carries key news) : stream.disconnect.Carries key news := by
  unfold Subscription.disconnect
  split
  · next hattached =>
    -- All news so far was sent before the error.
    rw [if_pos h.held]
    refine ⟨h.key, h.held, ?_, fun hbroken => by simp at hbroken, fun _ => ?_⟩
    · have := h.taken
      simp only [List.length_append]
      omega
    · refine ⟨news, .closed, List.prefix_refl _, ?_⟩
      show (stream.sent ++ [Except.error StoreError.closed]).drop stream.taken = _
      rw [List.drop_append_of_le_length h.taken]
      show stream.pending ++ _ = _
      rw [h.attached hattached]
  · exact h

/-- A stream stays attached when something is sent, as long as it is held. -/
theorem attached_offer (hheld : stream.held) (hattached : stream.attached) (change : Change) :
    (stream.offer change).attached := by
  unfold Subscription.offer
  rw [hheld]
  split <;> exact hattached

end Subscription

namespace MemoryStore

/-! ### The streams of a store -/

/-- The stream with a number carries the changes of a key behind the first
    `known` changes of the store. -/
def Carries (s : MemoryStore) (n : Nat) (key : String) (known : Nat) : Prop :=
  ∃ stream, s.streams[n]? = some stream ∧ stream.Carries key (s.news key known)

variable {s s' : MemoryStore} {n : Nat} {key : String} {known : Nat}

theorem Changed.news {change : Change} (hc : s.Changed change s')
    (hknown : known ≤ s.history.length) :
    s'.news key known = s.news key known ++ [change].filter (·.key == key) := by
  unfold MemoryStore.news
  rw [hc.history, List.drop_append_of_le_length hknown, List.filter_append]

theorem Carries.changed {change : Change} (h : s.Carries n key known)
    (hc : s.Changed change s') (hknown : known ≤ s.history.length) :
    s'.Carries n key known := by
  obtain ⟨stream, hstream, hcarries⟩ := h
  refine ⟨stream.offer change, ?_, ?_⟩
  · rw [hc.streams, List.getElem?_map, hstream]
    rfl
  · rw [hc.news hknown]
    exact hcarries.offer change

theorem Carries.unchanged (h : s.Carries n key known) (hu : s.Unchanged s') :
    s'.Carries n key known := by
  obtain ⟨stream, hstream, hcarries⟩ := h
  have hnews : s'.news key known = s.news key known := by
    unfold MemoryStore.news
    rw [hu.history]
  unfold Carries
  rw [hnews]
  rcases hu.streams with hsame | hbroken | ⟨other, hmore⟩
  · exact ⟨stream, by rw [hsame, hstream], hcarries⟩
  · refine ⟨stream.disconnect, ?_, hcarries.disconnect⟩
    rw [hbroken, List.getElem?_map, hstream]
    rfl
  · refine ⟨stream, ?_, hcarries⟩
    rw [hmore, List.getElem?_append_left (List.getElem?_eq_some_iff.mp hstream).1, hstream]

/-- What does not break the streams leaves the store online and those streams
    attached that are held. -/
theorem attached_step? {e : Event} (hs : s.step? e = some s') (he : e.breaks = false)
    (honline : s.offline = false) :
    s'.offline = false ∧ ∀ (n : Nat) (stream : Subscription), s.streams[n]? = some stream →
      stream.held → stream.attached →
      ∃ stream', s'.streams[n]? = some stream' ∧ stream'.attached := by
  have hchanged {change : Change} (hc : s.Changed change s') (n : Nat) (stream : Subscription)
      (hstream : s.streams[n]? = some stream) (hheld : stream.held)
      (hattached : stream.attached) :
      ∃ stream', s'.streams[n]? = some stream' ∧ stream'.attached := by
    refine ⟨stream.offer change, ?_, Subscription.attached_offer hheld hattached change⟩
    rw [hc.streams, List.getElem?_map, hstream]
    rfl
  cases e with
  | put key value =>
    simp only [step?, Option.ite_none_right_eq_some, Option.some.injEq] at hs
    obtain ⟨room, rfl⟩ := hs
    exact ⟨honline, hchanged (changed_put room key value)⟩
  | delete key =>
    simp only [step?] at hs
    split at hs
    · obtain rfl := Option.some.inj hs
      exact ⟨honline, fun _ stream hstream _ hattached => ⟨stream, hstream, hattached⟩⟩
    · next hdelete =>
      simp only [Option.ite_none_right_eq_some, Option.some.injEq] at hs
      obtain ⟨room, rfl⟩ := hs
      refine ⟨?_, hchanged (changed_delete room hdelete)⟩
      simp only [delete?, Option.ite_none_right_eq_some] at hdelete
      obtain rfl := Option.some.inj hdelete.2
      exact honline
  | disconnect => cases he
  | setOffline offline =>
    obtain rfl : offline = false := he
    obtain rfl := Option.some.inj hs
    exact ⟨rfl, fun _ stream hstream _ hattached => ⟨stream, hstream, hattached⟩⟩
  | get key =>
    obtain rfl := Option.some.inj hs
    unfold get
    rw [honline]
    exact ⟨rfl, fun _ stream hstream _ hattached => ⟨stream, hstream, hattached⟩⟩
  | watch key start =>
    obtain rfl := Option.some.inj hs
    unfold watch
    rw [honline]
    refine ⟨rfl, fun _ stream hstream _ hattached => ⟨stream, ?_, hattached⟩⟩
    exact (List.getElem?_append_left (List.getElem?_eq_some_iff.mp hstream).1).trans hstream

/-- A new stream carries what is behind the revision that it starts from. -/
theorem carries_watch (h : s.Consistent) {start : Int64} (hstart : start.toInt = known + 1)
    {store : MemoryStore} (hwatch : s.watch key start = (.ok n, store)) :
    store.Carries n key known := by
  unfold watch at hwatch
  split at hwatch
  · simp at hwatch
  · obtain ⟨hn, rfl⟩ := Prod.mk.inj hwatch
    obtain rfl := Except.ok.inj hn
    refine ⟨_, List.getElem?_concat_length, ?_⟩
    rw [h.changesSince_eq hstart]
    exact ⟨rfl, rfl, Nat.zero_le _, fun _ => rfl, fun hbroken => by simp at hbroken⟩

end MemoryStore

end FlashSale
