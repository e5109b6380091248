import FlashSale.Proofs.Catalogue.Accepted
import FlashSale.Proofs.Catalogue.Listing
import FlashSale.Proofs.Watcher.Run

/-! # What is served

    A watcher hears of the value of its key in three ways: from the answer to
    the first question, from the answers when it reads the key anew, and from
    changes on its streams.  Whatever the store does, at any time the last of
    these values that can be read is what is served, and nothing else. -/

namespace FlashSale

/-- The value of a key that an occurrence tells: what a read has found, or what
    a change of this key has put. -/
def Occurrence.value? (key : String) : Occurrence → Option KeyValue
  | .reread (.ok f) => f.kv
  | .received (.ok (.put kv)) => if kv.key = key then some kv else none
  | _ => none

/-- The catalogue of the last of some values that can be read. -/
def lastCatalogue? (values : List KeyValue) : Option Catalogue :=
  (values.filterMap KeyValue.catalogue?).getLast?

namespace Catalogue

/-- What is made of a stored value lists sound products by ids that go up. -/
theorem sound_of_catalogue? {kv : KeyValue} {c : Catalogue} (h : kv.catalogue? = some c) :
    (∀ p ∈ c.products, p.Sound) ∧ Ascending c.products := by
  unfold KeyValue.catalogue? at h
  split at h
  · next products hread =>
    obtain rfl := Option.some.inj h
    refine ⟨fun p hp => ?_, ascending_ofProducts kv.revision products⟩
    exact Product.sound_of_readList hread p (mem_of_mem_ofProducts hp)
  · cases h

end Catalogue

theorem sound_of_lastCatalogue? {values : List KeyValue} {c : Catalogue}
    (h : lastCatalogue? values = some c) :
    (∀ p ∈ c.products, p.Sound) ∧ Catalogue.Ascending c.products := by
  obtain ⟨kv, -, hkv⟩ := List.mem_filterMap.mp (List.mem_of_getLast? h)
  exact Catalogue.sound_of_catalogue? hkv

namespace Watcher

variable {w w' : Watcher}

/-! ### One step -/

theorem Moves.key {o : Occurrence} (h : w.Moves o w') : w'.key = w.key := by
  cases h with
  | refused | lost | unread => exact w.key_lose
  | _ => rfl

/-- Only a readable value of the key alters what is served, and then it is
    that value. -/
theorem Moves.catalogue {o : Occurrence} (h : w.Moves o w') :
    w'.catalogue = ((o.value? w.key).bind KeyValue.catalogue?).getD w.catalogue := by
  cases h with
  | refused | lost | unread => exact w.catalogue_lose
  | followed change =>
    show w.catalogue.follow w.key change = _
    rw [Catalogue.follow_eq]
    cases change with
    | put kv => by_cases hkey : kv.key = w.key <;> simp [Change.catalogue?, Occurrence.value?, hkey]
    | delete key revision => rfl
  | reread f =>
    show w.catalogue.refresh f = _
    exact w.catalogue.refresh_eq f
  | _ => rfl

/-! ### Runs -/

/-- After a run the last readable value that it has told is served, or what was
    served before. -/
theorem run?_catalogue {os : List Occurrence} (h : w.run? os = some w') :
    w'.key = w.key ∧ w'.catalogue =
      (lastCatalogue? (os.filterMap (Occurrence.value? w.key))).getD w.catalogue := by
  induction os using List.reverseRecOn generalizing w' with
  | nil =>
    obtain rfl := Option.some.inj h
    exact ⟨rfl, rfl⟩
  | append_singleton os o ih =>
    obtain ⟨before, hbefore, hadmits, rfl⟩ := run?_concat_eq_some.mp h
    obtain ⟨hkey, hcatalogue⟩ := ih hbefore
    have hmoves := moves_of_admits hadmits
    refine ⟨hmoves.key.trans hkey, ?_⟩
    rw [hmoves.catalogue, hkey, hcatalogue]
    unfold lastCatalogue?
    rw [List.filterMap_append, List.filterMap_append]
    -- The last occurrence decides if it tells a value that can be read.
    cases hvalue : o.value? w.key with
    | none => simp [hvalue]
    | some kv => cases hkv : kv.catalogue? <;> simp [hvalue, hkv]

/-- Whatever a store answers to a first question, if there was one, and
    whatever it does later: the last readable value that it told is what is
    served, at its own revision, and before there is one nothing is.  So all
    that is ever served is sound and in the order of ids. -/
theorem serves_last_readable (key : String) (maxRetries : UInt32) (revision : Int64)
    (first : Option Fetched) {os : List Occurrence} {w : Watcher}
    (h : (start key maxRetries revision (first.elim .initial Catalogue.initial.refresh)).run? os =
      some w) :
    let values := (first.bind Fetched.kv).toList ++ os.filterMap (Occurrence.value? key)
    w.catalogue = (lastCatalogue? values).getD .initial ∧
      (∀ p ∈ w.catalogue.products, p.Sound) ∧ Catalogue.Ascending w.catalogue.products := by
  intro values
  have hserved : w.catalogue = (lastCatalogue? values).getD .initial := by
    rw [(run?_catalogue h).2]
    -- The first answer does what any answer does to an empty catalogue.
    have hfirst : first.elim .initial Catalogue.initial.refresh =
        (lastCatalogue? (first.bind Fetched.kv).toList).getD .initial := by
      cases first with
      | none => rfl
      | some f =>
        show Catalogue.initial.refresh f = _
        rw [Catalogue.refresh_eq]
        cases hkv : f.kv with
        | none => simp [hkv, lastCatalogue?]
        | some kv => cases hc : kv.catalogue? <;> simp [hkv, hc, lastCatalogue?]
    show (lastCatalogue? (os.filterMap (Occurrence.value? key))).getD
      (first.elim .initial Catalogue.initial.refresh) = _
    rw [hfirst]
    simp only [values, lastCatalogue?, List.filterMap_append, List.getLast?_append]
    cases ((os.filterMap (Occurrence.value? key)).filterMap KeyValue.catalogue?).getLast? <;> rfl
  refine ⟨hserved, ?_⟩
  rw [hserved]
  cases hlast : lastCatalogue? values with
  | none => exact ⟨fun p hp => absurd hp List.not_mem_nil, List.Pairwise.nil⟩
  | some c => exact sound_of_lastCatalogue? hlast

/-- The first answer cannot be read, the stream brings a value and then nothing
    that counts, and after it was lost a newer value is found. -/
theorem serves_last_readable_after_reread :
    let sale (id : UInt64) : Product :=
      { id, startTime := 0, endTime := 10, status := .normal, count := 1, left := 1 }
    let put (key : String) (products : List Product) (revision : Int64) : Change :=
      .put { key, value := Product.writeList products, revision }
    let first : Fetched := { kv := some { key := "k", value := [], revision := 2 }, revision := 3 }
    let found : KeyValue := { key := "k", value := Product.writeList [sale 4, sale 3], revision := 9 }
    let os : List Occurrence :=
      [.subscribed (.ok ()), .received (.ok (put "k" [sale 1] 4)),
        .received (.ok (put "other" [sale 2] 5)), .received (.ok (.delete "k" 6)),
        .received (.ok (.put { key := "k", value := [], revision := 7 })),
        .received (.error .closed), .rested, .reread (.ok { kv := some found, revision := 12 })]
    ∃ w, (start "k" 3 3 (Catalogue.initial.refresh first)).run? os = some w ∧
      w.catalogue = .ofProducts 9 [sale 4, sale 3] ∧ (∀ p ∈ w.catalogue.products, p.Sound) ∧
      Catalogue.Ascending w.catalogue.products := by
  intro sale put first found os
  obtain ⟨w, hrun⟩ := Option.isSome_iff_exists.mp (show
    ((start "k" 3 3 (Catalogue.initial.refresh first)).run? os).isSome by decide +kernel)
  obtain ⟨hserved, hsound⟩ := serves_last_readable "k" 3 3 (some first) hrun
  refine ⟨w, hrun, ?_, hsound⟩
  rw [hserved]
  decide +kernel

end Watcher

end FlashSale
