import FlashSale.Toml.Reader
import Mathlib.Data.List.Nodup

/-! # Names in a document

    A name is given a value in its place, if it is there already, and at the end
    otherwise.  Whatever a line of a document does, the names stay distinct, so
    each says at most one thing. -/

namespace FlashSale.Toml

/-! ### Entries -/

namespace Entries

variable {name other : String} {value : Value} {entries after : Entries} {path : List String}
  {origin : Origin} {mayPass : Origin → Bool} {change : Entries → Option Entries}

/-- No two entries have the same name. -/
def Distinct (entries : Entries) : Prop :=
  (entries.map Prod.fst).Nodup

theorem distinct_nil : Distinct [] := List.nodup_nil

theorem distinct_cons_iff :
    Distinct ((name, value) :: entries) ↔ name ∉ entries.map Prod.fst ∧ Distinct entries :=
  List.nodup_cons

theorem lookup_eq_none_iff : entries.lookup name = none ↔ name ∉ entries.map Prod.fst := by
  rw [List.lookup_eq_none_iff]
  simp only [bne_iff_ne, ne_eq, List.mem_map, not_exists, not_and]
  constructor
  · intro h entry hentry hname
    exact h entry hentry hname.symm
  · intro h entry hentry hname
    exact h entry hentry hname.symm

theorem mem_names_set :
    other ∈ (entries.set name value).map Prod.fst ↔ other = name ∨ other ∈ entries.map Prod.fst := by
  induction entries with
  | nil => simp [set]
  | cons entry entries ih =>
    obtain ⟨first, old⟩ := entry
    rw [set]
    split
    · next hfirst => simp [hfirst]
    · simp only [List.map_cons, List.mem_cons, ih, or_left_comm]

theorem Distinct.set (h : Distinct entries) : Distinct (entries.set name value) := by
  induction entries with
  | nil => exact List.nodup_singleton name
  | cons entry entries ih =>
    obtain ⟨first, old⟩ := entry
    obtain ⟨hfirst, hothers⟩ := distinct_cons_iff.mp h
    rw [Entries.set]
    split
    · -- The name keeps its place.
      next hsame =>
      subst hsame
      exact distinct_cons_iff.mpr ⟨hfirst, hothers⟩
    · next hne =>
      refine distinct_cons_iff.mpr ⟨fun hmem => ?_, ih hothers⟩
      rcases mem_names_set.mp hmem with hsame | hmem
      · exact hne hsame
      · exact hfirst hmem

/-- Inside of another table only the value of one name changes. -/
theorem Distinct.within (h : Distinct entries)
    (hchange : ∀ changed, change entries = some changed → Distinct changed)
    (hwithin : entries.within origin mayPass change path = some after) : Distinct after := by
  cases path with
  | nil => exact hchange after hwithin
  | cons name path =>
    rw [Entries.within] at hwithin
    split at hwithin
    · obtain ⟨inner, -, hset⟩ := Option.bind_eq_some_iff.mp hwithin
      obtain rfl := Option.some.inj hset
      exact h.set
    · split at hwithin
      · obtain ⟨inner, -, hset⟩ := Option.bind_eq_some_iff.mp hwithin
        obtain rfl := Option.some.inj hset
        exact h.set
      · cases hwithin
    · cases hwithin

theorem Distinct.add? (h : Distinct entries) (hadd : entries.add? name value = some after) :
    Distinct after := by
  rw [Entries.add?] at hadd
  split at hadd
  · cases hadd
  · obtain rfl := Option.some.inj hadd
    exact h.set

theorem Distinct.assign? (h : Distinct entries)
    (hassign : entries.assign? path name value = some after) : Distinct after :=
  h.within (fun _ hadd => h.add? hadd) hassign

theorem Distinct.openTable? (h : Distinct entries)
    (hopen : entries.openTable? path name = some after) : Distinct after := by
  refine h.within (fun changed hchanged => ?_) hopen
  split at hchanged
  · obtain rfl := Option.some.inj hchanged
    exact h.set
  · obtain rfl := Option.some.inj hchanged
    exact h.set
  · cases hchanged

end Entries

/-! ### Lines -/

namespace Reader

variable {s next : State} {path : List String} {name : String} {value : Value}

theorem State.distinct_assign? (h : s.entries.Distinct)
    (hassign : s.assign? path name value = some next) : next.entries.Distinct := by
  obtain ⟨entries, hwithin, hnext⟩ := Option.bind_eq_some_iff.mp hassign
  obtain rfl := Option.some.inj hnext
  exact h.within (fun _ hadd => h.assign? hadd) hwithin

theorem State.distinct_openTable? (h : s.entries.Distinct)
    (hopen : s.openTable? path name = some next) : next.entries.Distinct := by
  obtain ⟨entries, htable, hnext⟩ := Option.bind_eq_some_iff.mp hopen
  obtain rfl := Option.some.inj hnext
  exact h.openTable? htable

/-- Each line leaves the names distinct. -/
theorem distinct_of_readLines {fuel : Nat} {cs : List Char} {entries : Entries}
    (h : s.entries.Distinct) (hread : readLines fuel s cs = some entries) : entries.Distinct := by
  induction fuel generalizing s cs with
  | zero => cases hread
  | succ fuel ih =>
    rw [readLines] at hread
    split at hread
    · obtain rfl := Option.some.inj hread
      exact h
    · -- A header opens another table.
      obtain ⟨⟨⟨path, name⟩, rest⟩, -, hread⟩ := Option.bind_eq_some_iff.mp hread
      simp only at hread
      split at hread
      · obtain ⟨rest, -, hread⟩ := Option.bind_eq_some_iff.mp hread
        obtain ⟨next, hopen, hread⟩ := Option.bind_eq_some_iff.mp hread
        exact ih (State.distinct_openTable? h hopen) hread
      · cases hread
    · -- Comments and ends of lines leave the document as it is.
      obtain ⟨rest, -, hread⟩ := Option.bind_eq_some_iff.mp hread
      exact ih h hread
    · exact ih h hread
    · obtain ⟨rest, -, hread⟩ := Option.bind_eq_some_iff.mp hread
      exact ih h hread
    · -- An entry goes into the open table.
      obtain ⟨⟨⟨path, name⟩, rest⟩, -, hread⟩ := Option.bind_eq_some_iff.mp hread
      simp only at hread
      split at hread
      · obtain ⟨⟨value, rest⟩, -, hread⟩ := Option.bind_eq_some_iff.mp hread
        obtain ⟨rest, -, hread⟩ := Option.bind_eq_some_iff.mp hread
        obtain ⟨next, hassign, hread⟩ := Option.bind_eq_some_iff.mp hread
        exact ih (State.distinct_assign? h hassign) hread
      · cases hread

end Reader

/-- A document that is read says each name once. -/
theorem distinct_of_parse? {text : String} {entries : Entries} (h : parse? text = some entries) :
    entries.Distinct :=
  Reader.distinct_of_readLines Entries.distinct_nil h

end FlashSale.Toml
