import FlashSale.Proofs.Settings.Overrides
import FlashSale.Proofs.Toml.Names
import FlashSale.Settings.File

/-! # What a file says

    Settings can be had from a document exactly if each of its entries names a
    setting and has a value for it.  As no name comes twice, each setting that
    is named is what its one entry says, and the others have their defaults. -/

namespace FlashSale

/-! ### Names of settings -/

namespace Setting

/-- No two settings have the same name. -/
theorem name_injective : Function.Injective name := by
  intro j k h
  exact List.inj_on_of_nodup_map nodup_variableNames j.mem_all k.mem_all
    (by rw [variableName, variableName, h])

theorem ofName?_eq_some_iff {text : String} {k : Setting} : ofName? text = some k ↔ text = k.name := by
  constructor
  · intro h
    exact (beq_iff_eq.mp (List.find?_some h :)).symm
  · rintro rfl
    cases hfound : ofName? k.name with
    | none => exact absurd (List.find?_eq_none.mp hfound k k.mem_all) (by simp)
    | some j => rw [name_injective (beq_iff_eq.mp (List.find?_some hfound :))]

/-- An entry of a document gives a setting a value. -/
def Gives (k : Setting) (entry : String × Toml.Value) (v : k.Choice) : Prop :=
  entry.1 = k.name ∧ k.ofToml? entry.2 = some v

end Setting

/-! ### Documents -/

namespace Settings

variable {s next after : Settings} {entry : String × Toml.Value} {entries : Toml.Entries}
  {k : Setting} {v : k.Choice} {value : Toml.Value}

/-- What the entries of a document make of settings. -/
structure Filed (entries : Toml.Entries) (s after : Settings) : Prop where
  /-- Every entry gives some setting a value. -/
  known : ∀ entry ∈ entries, ∃ (k : Setting) (v : k.Choice), k.Gives entry v
  /-- A setting that is named is what its entry says. -/
  chosen : ∀ (k : Setting) (value : Toml.Value),
    entries.lookup k.name = some value → k.ofToml? value = some (after.get k)
  /-- Any other is what it was. -/
  kept : ∀ k : Setting, entries.lookup k.name = none → after.get k = s.get k

theorem setEntry?_eq_some_iff :
    setEntry? s entry = some next ↔
      ∃ (k : Setting) (v : k.Choice), k.Gives entry v ∧ s.set k v = next := by
  unfold setEntry?
  simp only [Setting.Gives, Option.bind_eq_bind, Option.bind_eq_some_iff,
    Setting.ofName?_eq_some_iff, Option.pure_def, Option.some.injEq]
  constructor
  · intro h
    obtain ⟨k, hname, v, hvalue, hset⟩ := h
    exact ⟨k, v, ⟨hname, hvalue⟩, hset⟩
  · intro h
    obtain ⟨k, v, ⟨hname, hvalue⟩, hset⟩ := h
    exact ⟨k, hname, v, hvalue, hset⟩

theorem lookup_name_of_ne {j : Setting} (h : j ≠ k) :
    ((k.name, value) :: entries).lookup j.name = entries.lookup j.name := by
  have hname : (j.name == k.name) = false := beq_false_of_ne fun hsame => h (Setting.name_injective hsame)
  rw [List.lookup_cons, hname]

/-- The first entry may be taken over before the others, which say nothing about
    its setting. -/
theorem filed_cons_iff (hothers : entries.lookup k.name = none)
    (hvalue : k.ofToml? value = some v) :
    Filed ((k.name, value) :: entries) s after ↔ Filed entries (s.set k v) after := by
  constructor
  · intro h
    have hk : after.get k = v :=
      Option.some.inj ((h.chosen k value List.lookup_cons_self).symm.trans hvalue)
    refine ⟨(List.forall_mem_cons.mp h.known).2, fun j value' hj => ?_, fun j hj => ?_⟩
    · -- No other entry names the first setting.
      apply h.chosen j value'
      rw [lookup_name_of_ne, hj]
      rintro rfl
      rw [hothers] at hj
      cases hj
    · by_cases hjk : j = k
      · subst hjk
        rw [hk, get_set_self]
      · rw [get_set_of_ne s v hjk, h.kept j (by rw [lookup_name_of_ne hjk, hj])]
  · intro h
    refine ⟨List.forall_mem_cons.mpr ⟨⟨k, v, rfl, hvalue⟩, h.known⟩, fun j value' hj => ?_,
      fun j hj => ?_⟩
    · by_cases hjk : j = k
      · subst hjk
        obtain rfl := Option.some.inj (List.lookup_cons_self.symm.trans hj)
        rw [h.kept j hothers, get_set_self, hvalue]
      · rw [lookup_name_of_ne hjk] at hj
        exact h.chosen j value' hj
    · have hjk : j ≠ k := by
        rintro rfl
        rw [List.lookup_cons_self] at hj
        cases hj
      rw [lookup_name_of_ne hjk] at hj
      rw [h.kept j hj, get_set_of_ne s v hjk]

/-- Taking over all entries succeeds exactly if each can be taken over, and makes
    of settings what the entries make of them. -/
theorem foldlM_setEntry?_eq_some_iff (hdistinct : entries.Distinct) :
    entries.foldlM setEntry? s = some after ↔ Filed entries s after := by
  induction entries generalizing s with
  | nil =>
    constructor
    · intro h
      obtain rfl := Option.some.inj h
      exact ⟨nofun, nofun, fun _ _ => rfl⟩
    · intro h
      exact congrArg some (ext_get fun k => (h.kept k rfl).symm)
  | cons entry entries ih =>
    obtain ⟨name, value⟩ := entry
    obtain ⟨hname, hothers⟩ := Toml.Entries.distinct_cons_iff.mp hdistinct
    rw [← Toml.Entries.lookup_eq_none_iff] at hname
    rw [List.foldlM_cons, Option.bind_eq_bind, Option.bind_eq_some_iff]
    constructor
    · intro h
      obtain ⟨next, hfirst, hnext⟩ := h
      obtain ⟨k, v, ⟨rfl, hvalue⟩, rfl⟩ := setEntry?_eq_some_iff.mp hfirst
      exact (filed_cons_iff hname hvalue).mpr ((ih hothers).mp hnext)
    · intro h
      obtain ⟨k, v, rfl, hvalue⟩ := h.known (name, value) List.mem_cons_self
      exact ⟨s.set k v, setEntry?_eq_some_iff.mpr ⟨k, v, ⟨rfl, hvalue⟩, rfl⟩,
        (ih hothers).mpr ((filed_cons_iff hname hvalue).mp h)⟩

/-- If each entry gives some setting a value, there are the settings it takes. -/
theorem exists_filed (hdistinct : entries.Distinct)
    (hknown : ∀ entry ∈ entries, ∃ (k : Setting) (v : k.Choice), k.Gives entry v) (s : Settings) :
    ∃ after, Filed entries s after := by
  induction entries generalizing s with
  | nil => exact ⟨s, nofun, nofun, fun _ _ => rfl⟩
  | cons entry entries ih =>
    obtain ⟨name, value⟩ := entry
    obtain ⟨hname, hothers⟩ := Toml.Entries.distinct_cons_iff.mp hdistinct
    obtain ⟨⟨k, v, rfl, hvalue⟩, hrest⟩ := List.forall_mem_cons.mp hknown
    obtain ⟨after, hafter⟩ := ih hothers hrest (s.set k v)
    rw [← Toml.Entries.lookup_eq_none_iff] at hname
    exact ⟨after, (filed_cons_iff hname hvalue).mpr hafter⟩

/-- A text has settings if it is a document whose entries all give one a value. -/
theorem parse?_eq_some_iff {text : String} :
    parse? text = some after ↔
      ∃ entries, Toml.parse? text = some entries ∧ Filed entries {} after := by
  rw [parse?, Option.bind_eq_bind, Option.bind_eq_some_iff]
  constructor
  · intro h
    obtain ⟨entries, hentries, hafter⟩ := h
    exact ⟨entries, hentries,
      (foldlM_setEntry?_eq_some_iff (Toml.distinct_of_parse? hentries)).mp hafter⟩
  · intro h
    obtain ⟨entries, hentries, hfiled⟩ := h
    exact ⟨entries, hentries,
      (foldlM_setEntry?_eq_some_iff (Toml.distinct_of_parse? hentries)).mpr hfiled⟩

theorem load_eq_ok_iff {fileText : String → Except String String} {path : String} :
    load fileText path = .ok s ↔ ∃ text, fileText path = .ok text ∧ parse? text = some s := by
  unfold load
  cases fileText path with
  | error cause => simp
  | ok text =>
    cases hparsed : parse? text <;> simp [hparsed]

end Settings

end FlashSale
