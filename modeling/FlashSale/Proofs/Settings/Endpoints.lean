import FlashSale.Proofs.Text.Pieces
import FlashSale.Settings.Basic

/-! # Endpoints of the store

    A text lists the endpoints of the store: items with commas between them, of
    which the blank ones say nothing.  White space around an item is no part of
    the endpoint that it says.  Every text lists endpoints in one way, and only
    a text of commas and white space lists none. -/

namespace FlashSale.Settings

open Text

variable {s : Settings} {item : List Char} {items : List (List Char)} {es : List String}

/-! ### Lists -/

/-- The text can be listed: there is something in it, no comma, and no white
    space at its ends. -/
structure IsEndpoint (e : String) : Prop where
  ne_empty : e ≠ ""
  no_comma : ',' ∉ e.toList
  tight_front : ∀ c ∈ e.toList.head?, isBlank c = false
  tight_back : ∀ c ∈ e.toList.getLast?, isBlank c = false

theorem isEndpoint_iff {e : String} :
    IsEndpoint e ↔ e ≠ "" ∧ ',' ∉ e.toList ∧ trim e.toList = e.toList := by
  rw [trim_eq_self_iff]
  constructor
  · intro h
    exact ⟨h.ne_empty, h.no_comma, h.tight_front, h.tight_back⟩
  · rintro ⟨hne, hcomma, hfront, hback⟩
    exact ⟨hne, hcomma, hfront, hback⟩

instance (e : String) : Decidable (IsEndpoint e) :=
  decidable_of_iff' _ isEndpoint_iff

/-- The items are the endpoints in their order, perhaps with white space around
    them, and blank items anywhere. -/
inductive Items : List String → List (List Char) → Prop
  | nil : Items [] []
  | endpoint {e : String} {item : List Char} {es : List String} {items : List (List Char)}
    (padded : Padded e.toList item) (rest : Items es items) : Items (e :: es) (item :: items)
  | blank {item : List Char} {es : List String} {items : List (List Char)}
    (all : ∀ c ∈ item, isBlank c = true) (rest : Items es items) : Items es (item :: items)

/-- The text lists the endpoints. -/
def Lists (text : String) (es : List String) : Prop :=
  ∃ items, Items es items ∧ text.toList = [','].intercalate items

/-- What items say, the blank ones left out. -/
def said (items : List (List Char)) : List String :=
  ((items.map trim).filter fun item => !item.isEmpty).map String.ofList

theorem said_cons_of_blank (h : ∀ c ∈ item, isBlank c = true) :
    said (item :: items) = said items := by
  rw [said, List.map_cons, trim_eq_nil_iff.mpr h, List.filter_cons_of_neg (by simp)]
  rfl

theorem said_cons_of_ne_nil (h : trim item ≠ []) :
    said (item :: items) = String.ofList (trim item) :: said items := by
  rw [said, List.map_cons, List.filter_cons_of_pos (by simpa using h), List.map_cons]
  rfl

/-! ### What is listed is read -/

theorem Items.not_mem (h : Items es items) (hes : ∀ e ∈ es, IsEndpoint e) :
    ∀ item ∈ items, ',' ∉ item := by
  induction h with
  | nil => nofun
  | endpoint padded _ ih =>
    obtain ⟨he, hes⟩ := List.forall_mem_cons.mp hes
    exact List.forall_mem_cons.mpr ⟨padded.not_mem (by decide) he.no_comma, ih hes⟩
  | blank all _ ih =>
    exact List.forall_mem_cons.mpr ⟨not_mem_margin all (by decide), ih hes⟩

theorem Items.said_eq (h : Items es items) (hes : ∀ e ∈ es, IsEndpoint e) : said items = es := by
  induction h with
  | nil => rfl
  | endpoint padded _ ih =>
    obtain ⟨he, hes⟩ := List.forall_mem_cons.mp hes
    obtain ⟨hne, -, htight⟩ := isEndpoint_iff.mp he
    have htrim := padded.trim_eq.trans htight
    rw [said_cons_of_ne_nil (by simpa [htrim] using hne), htrim, String.ofList_toList, ih hes]
  | blank all _ ih => rw [said_cons_of_blank all, ih hes]

theorem Lists.endpoints_eq (h : Lists s.storeAddresses es) (hes : ∀ e ∈ es, IsEndpoint e) :
    s.endpoints = es := by
  obtain ⟨items, hitems, htext⟩ := h
  show said (s.storeAddresses.toList.splitOn ',') = es
  by_cases hnone : items = []
  · -- The empty text has one item all the same.
    subst hnone
    cases hitems
    rw [htext]
    rfl
  · -- No comma is part of an item, so the text comes apart into just these items.
    have hsplit : IsSplit ',' s.storeAddresses.toList items :=
      ⟨hnone, htext, hitems.not_mem hes⟩
    rw [splitOn_eq_iff.mpr hsplit, hitems.said_eq hes]

/-! ### What is read is listed -/

/-- Items of any kind are a way to write what they say. -/
theorem items_said (items : List (List Char)) : Items (said items) items := by
  induction items with
  | nil => exact .nil
  | cons item items ih =>
    by_cases hblank : trim item = []
    · have hall := trim_eq_nil_iff.mp hblank
      rw [said_cons_of_blank hall]
      exact .blank hall ih
    · rw [said_cons_of_ne_nil hblank]
      refine .endpoint ?_ ih
      rw [String.toList_ofList]
      exact padded_trim item

theorem lists_endpoints (s : Settings) : Lists s.storeAddresses s.endpoints :=
  ⟨_, items_said _, (splitOn_eq_iff.mp rfl).joined⟩

/-- Whatever is left of an item can be listed. -/
theorem isEndpoint_trim (hcomma : ',' ∉ item) (hsome : trim item ≠ []) :
    IsEndpoint (String.ofList (trim item)) := by
  rw [isEndpoint_iff, String.toList_ofList]
  refine ⟨by simpa using hsome, fun hmem => ?_, trim_trim item⟩
  exact hcomma (mem_of_mem_trim hmem)

theorem isEndpoint_of_mem {e : String} (h : e ∈ s.endpoints) : IsEndpoint e := by
  obtain ⟨text, htext, rfl⟩ := List.mem_map.mp h
  obtain ⟨hmem, hsome⟩ := List.mem_filter.mp htext
  obtain ⟨item, hitem, rfl⟩ := List.mem_map.mp hmem
  exact isEndpoint_trim (not_mem_of_mem_splitOn item hitem) (by simpa using hsome)

/-! ### Nothing listed -/

theorem endpoints_eq_nil_iff :
    s.endpoints = [] ↔ ∀ c ∈ s.storeAddresses.toList, c = ',' ∨ isBlank c = true := by
  rw [← forall_mem_splitOn_iff]
  simp only [endpoints, List.map_eq_nil_iff, List.filter_eq_nil_iff, List.forall_mem_map,
    Bool.not_eq_true, Bool.not_eq_false', List.isEmpty_iff, trim_eq_nil_iff]

/-- It is checked first that there are endpoints. -/
theorem check_eq_missing_iff : s.check = .error (.missing .storeAddresses) ↔ s.endpoints = [] := by
  rw [check]
  split
  · next hnone => exact iff_of_true rfl (List.isEmpty_iff.mp hnone)
  · next hsome =>
    refine iff_of_false (fun h => ?_) (by simpa using hsome)
    -- No other fault is about this setting.
    split_ifs at h <;> cases h

/-- A text that lists endpoints is read as them, whatever white space is around
    them and however many blank items stand among them, and as nothing that it
    does not list.  Whatever is read can be listed.  The setting counts as
    missing exactly if there is nothing in its text but commas and white
    space. -/
theorem endpoints_listed (s : Settings) :
    (∀ es : List String, (∀ e ∈ es, IsEndpoint e) →
        (Lists s.storeAddresses es ↔ s.endpoints = es)) ∧
      (∀ e ∈ s.endpoints, IsEndpoint e) ∧
      (s.check = .error (.missing .storeAddresses) ↔
        ∀ c ∈ s.storeAddresses.toList, c = ',' ∨ isBlank c = true) := by
  refine ⟨?_, ?_, ?_⟩
  · intro es hes
    constructor
    · intro hlists
      exact hlists.endpoints_eq hes
    · rintro rfl
      exact lists_endpoints s
  · intro e he
    exact isEndpoint_of_mem he
  · rw [check_eq_missing_iff, endpoints_eq_nil_iff]

/-- White space inside an endpoint is a part of it, and so is a character at its
    end that has no width but is no white space.  Blank items stand in front,
    between and behind; where there are no others, the setting is missing. -/
theorem endpoints_listed_among_blanks :
    let s : Settings :=
      { storeAddresses := "\u3000,\tetcd b:1\u2028,,10.0.0.1:2379\u200B , \u00A0,[::1]\n," }
    let es := ["etcd b:1", "10.0.0.1:2379\u200B", "[::1]"]
    let t : Settings := { storeAddresses := "\u3000,,\u2028, \u00A0,\n," }
    (∀ e ∈ es, IsEndpoint e) ∧ Lists s.storeAddresses es ∧ s.endpoints = es ∧
      t.check = .error (.missing .storeAddresses) ∧
      (Fault.missing .storeAddresses).message = "missing required setting `etcd_addr`" := by
  intro s es t
  obtain ⟨hread, -, -⟩ := endpoints_listed s
  obtain ⟨-, -, hmissing⟩ := endpoints_listed t
  have hes : ∀ e ∈ es, IsEndpoint e := by decide +kernel
  have hitems : Items es
      ["\u3000".toList, "\tetcd b:1\u2028".toList, "".toList, "10.0.0.1:2379\u200B ".toList,
        " \u00A0".toList, "[::1]\n".toList, "".toList] := by
    have hblank {item : String} (h : trim item.toList = []) : ∀ c ∈ item.toList, isBlank c = true :=
      trim_eq_nil_iff.mp h
    refine .blank (hblank (by decide)) (.endpoint (padded_of_trim_eq (by decide +kernel)) ?_)
    refine .blank (hblank (by decide)) (.endpoint (padded_of_trim_eq (by decide +kernel)) ?_)
    refine .blank (hblank (by decide)) (.endpoint (padded_of_trim_eq (by decide +kernel)) ?_)
    exact .blank (hblank (by decide)) .nil
  have hlists : Lists s.storeAddresses es := ⟨_, hitems, by decide +kernel⟩
  have hnothing : ∀ c ∈ t.storeAddresses.toList, c = ',' ∨ isBlank c = true := by
    have hall : (t.storeAddresses.toList.all fun c => c == ',' || isBlank c) = true := by
      decide +kernel
    intro c hc
    simpa using List.all_eq_true.mp hall c hc
  exact ⟨hes, hlists, (hread es hes).mp hlists, hmissing.mpr hnothing, by decide +kernel⟩

end FlashSale.Settings
