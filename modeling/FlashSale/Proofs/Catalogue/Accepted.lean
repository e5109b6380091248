import FlashSale.Catalogue.Update
import Mathlib.Data.List.Induction
import Mathlib.Data.List.Nodup

/-! # What becomes a catalogue

    A stored value that can be read becomes a catalogue, and whatever else the
    store tells leaves the catalogue as it is.  So after any number of changes
    the catalogue is that of the last one that could be read. -/

namespace FlashSale

/-- The catalogue that a stored value stands for, if it can be read. -/
def KeyValue.catalogue? (kv : KeyValue) : Option Catalogue :=
  match Product.readList kv.value with
  | .ok products => some (.ofProducts kv.revision products)
  | .error _ => none

/-- The catalogue that a change of a key brings, if it brings one. -/
def Change.catalogue? (key : String) : Change → Option Catalogue
  | .put kv => if kv.key = key then kv.catalogue? else none
  | .delete _ _ => none

theorem KeyValue.revision_of_catalogue? {kv : KeyValue} {c : Catalogue}
    (h : kv.catalogue? = some c) : c.revision = kv.revision := by
  unfold catalogue? at h
  split at h
  · obtain rfl := Option.some.inj h
    rfl
  · simp at h

theorem Change.revision_of_catalogue? {key : String} {change : Change} {c : Catalogue}
    (h : change.catalogue? key = some c) : c.revision = change.revision := by
  cases change with
  | put kv =>
    simp only [catalogue?, Option.ite_none_right_eq_some] at h
    exact kv.revision_of_catalogue? h.2
  | delete key' revision => simp [catalogue?] at h

theorem Change.key_of_catalogue? {key : String} {change : Change} {c : Catalogue}
    (h : change.catalogue? key = some c) : change.key = key := by
  cases change with
  | put kv =>
    simp only [catalogue?, Option.ite_none_right_eq_some] at h
    exact h.1
  | delete key' revision => simp [catalogue?] at h

/-- The last of some changes that brings a catalogue for a key. -/
def lastReadable? (key : String) (changes : List Change) : Option Change :=
  changes.reverse.find? fun change => (change.catalogue? key).isSome

theorem mem_of_lastReadable? {key : String} {changes : List Change} {change : Change}
    (h : lastReadable? key changes = some change) : change ∈ changes :=
  List.mem_reverse.mp (List.mem_of_find?_eq_some h)

theorem readable_of_lastReadable? {key : String} {changes : List Change} {change : Change}
    (h : lastReadable? key changes = some change) : ∃ c, change.catalogue? key = some c := by
  have hsome : (change.catalogue? key).isSome := by simpa using List.find?_some h
  exact Option.isSome_iff_exists.mp hsome

/-! ### Some of the changes -/

section

variable {key : String} {part whole : List Change}

theorem lastReadable?_eq_none_of_sublist (hpart : part.Sublist whole)
    (h : lastReadable? key whole = none) : lastReadable? key part = none := by
  unfold lastReadable? at h ⊢
  rw [List.find?_eq_none] at h ⊢
  intro change hmem
  exact h change (hpart.reverse.subset hmem)

/-- The first element with a property stays the first among some of the
    elements, if it is one of them. -/
theorem find?_eq_some_of_sublist {α : Type} {part whole : List α} {p : α → Bool} {a : α}
    (hpart : part.Sublist whole) (hnodup : whole.Nodup) (h : whole.find? p = some a)
    (hmem : a ∈ part) : part.find? p = some a := by
  induction hpart with
  | slnil => cases hmem
  | cons other hpart ih =>
    obtain ⟨hother, hnodup⟩ := List.nodup_cons.mp hnodup
    rw [List.find?_cons] at h
    split at h
    · -- The first one is left out, and does not come again.
      obtain rfl := Option.some.inj h
      exact absurd (hpart.subset hmem) hother
    · exact ih hnodup h hmem
  | cons_cons other hpart ih =>
    rw [List.find?_cons] at h ⊢
    split at h
    · exact h
    · next hp =>
      obtain rfl | hmem := List.mem_cons.mp hmem
      · simp [List.find?_some h] at hp
      · exact ih (List.nodup_cons.mp hnodup).2 h hmem

end

namespace Catalogue

theorem publish_eq (c : Catalogue) (kv : KeyValue) : c.publish kv = kv.catalogue?.getD c := by
  unfold publish KeyValue.catalogue?
  cases Product.readList kv.value <;> rfl

theorem refresh_eq (c : Catalogue) (f : Fetched) :
    c.refresh f = (f.kv.bind KeyValue.catalogue?).getD c := by
  unfold refresh
  cases f.kv with
  | none => rfl
  | some kv => exact c.publish_eq kv

theorem follow_eq (c : Catalogue) (key : String) (change : Change) :
    c.follow key change = (change.catalogue? key).getD c := by
  cases change with
  | put kv =>
    simp only [follow, Change.catalogue?, publish_eq]
    split <;> rfl
  | delete key' revision => rfl

/-- Publishing a value again changes nothing. -/
theorem publish_publish (c : Catalogue) (kv : KeyValue) :
    (c.publish kv).publish kv = c.publish kv := by
  simp only [publish_eq]
  cases kv.catalogue? <;> rfl

/-- The catalogue after following some changes one by one. -/
def followAll (c : Catalogue) (key : String) (changes : List Change) : Catalogue :=
  changes.foldl (fun c change => c.follow key change) c

theorem followAll_append (c : Catalogue) (key : String) (changes more : List Change) :
    c.followAll key (changes ++ more) = (c.followAll key changes).followAll key more :=
  List.foldl_append

/-- Following changes comes out at the last one that can be read. -/
theorem followAll_eq (c : Catalogue) (key : String) (changes : List Change) :
    c.followAll key changes =
      ((lastReadable? key changes).bind (Change.catalogue? key)).getD c := by
  induction changes using List.reverseRecOn with
  | nil => rfl
  | append_singleton changes change ih =>
    have hfollow : c.followAll key (changes ++ [change]) =
        (c.followAll key changes).follow key change := List.foldl_append
    rw [hfollow, follow_eq, ih]
    unfold lastReadable?
    rw [List.reverse_append, List.reverse_singleton, List.singleton_append, List.find?_cons]
    cases h : change.catalogue? key <;> simp [h]

theorem followAll_of_lastReadable? {key : String} {changes : List Change} {change : Change}
    {c' : Catalogue} (c : Catalogue) (hlast : lastReadable? key changes = some change)
    (hc' : change.catalogue? key = some c') : c.followAll key changes = c' := by
  rw [followAll_eq, hlast]
  simp [hc']

/-- What is served after some changes is as old as before, or as one of them. -/
theorem revision_followAll (c : Catalogue) (key : String) (changes : List Change) :
    c.followAll key changes = c ∨
      ∃ change ∈ changes, (c.followAll key changes).revision = change.revision := by
  rw [followAll_eq]
  cases hlast : lastReadable? key changes with
  | none => exact .inl rfl
  | some change =>
    cases hc : change.catalogue? key with
    | none => exact .inl (by simp [hc])
    | some c' =>
      refine .inr ⟨change, mem_of_lastReadable? hlast, ?_⟩
      simpa [hc] using Change.revision_of_catalogue? hc

/-- Following only some of the changes comes out at the same catalogue if and
    only if the last one that can be read is among them. -/
theorem followAll_eq_followAll_iff {c : Catalogue} {key : String} {part whole : List Change}
    (hpart : part.Sublist whole) (hnodup : (whole.map Change.revision).Nodup)
    (hold : ∀ change ∈ whole, c.revision ≠ change.revision) :
    c.followAll key part = c.followAll key whole ↔
      ∀ change, lastReadable? key whole = some change → change ∈ part := by
  cases hlast : lastReadable? key whole with
  | none =>
    rw [followAll_eq, followAll_eq, hlast, lastReadable?_eq_none_of_sublist hpart hlast]
    simp
  | some change =>
    obtain ⟨c', hc'⟩ := readable_of_lastReadable? hlast
    have hwhole : c.followAll key whole = c' := followAll_of_lastReadable? c hlast hc'
    constructor
    · intro heq other hother
      obtain rfl := Option.some.inj hother
      rw [hwhole] at heq
      have hrevision : c'.revision = change.revision := Change.revision_of_catalogue? hc'
      rcases revision_followAll c key part with hsame | ⟨source, hmem, hsource⟩
      · rw [hsame] at heq
        rw [← heq] at hrevision
        exact absurd hrevision (hold change (mem_of_lastReadable? hlast))
      · -- Two changes of one revision are the same.
        rw [heq, hrevision] at hsource
        rw [List.inj_on_of_nodup_map hnodup (mem_of_lastReadable? hlast) (hpart.subset hmem)
          hsource]
        exact hmem
    · intro hmem
      have hpartLast : lastReadable? key part = some change :=
        find?_eq_some_of_sublist hpart.reverse (List.nodup_reverse.mpr hnodup.of_map) hlast
          (List.mem_reverse.mpr (hmem change rfl))
      rw [hwhole, followAll_of_lastReadable? c hpartLast hc']

end Catalogue

end FlashSale
