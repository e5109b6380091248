import FlashSale.Catalogue.Registry
import FlashSale.Proofs.Catalogue.Listing
import Mathlib.Data.List.Dedup
import Mathlib.Data.List.Induction

/-! # What is published

    A catalogue lists, by ids that go up, the last of the products with each id.
    The registry answers for the list that was published last, and before that
    for an empty one.  Whoever got hold of a catalogue keeps the one that was
    current then, whatever is published afterwards. -/

namespace FlashSale

namespace Catalogue

/-! ### A published list -/

/-- Of the products with its id, this is the last in the list. -/
def IsLast (products : List Product) (p : Product) : Prop :=
  ∃ before later, products = before ++ p :: later ∧ ∀ q ∈ later, q.id ≠ p.id

/-- The catalogue shows a list that was published at a revision: there is one
    product for each id in the list, the last one, and the ids go up. -/
structure Shows (c : Catalogue) (revision : Int64) (products : List Product) : Prop where
  revision_eq : c.revision = revision
  found : ∀ id p, c.find? id = some p ↔ p.id = id ∧ IsLast products p
  listed : ∀ p, p ∈ c.products ↔ IsLast products p
  ascending : Ascending c.products
  size_eq : c.size = (products.map Product.id).dedup.length

/-- The lists differ at most in the order of products with distinct ids: those
    with one id are the same, in the same order. -/
def SameById (products products' : List Product) : Prop :=
  ∀ id, products.filter (fun p => p.id == id) = products'.filter fun p => p.id == id

variable {revision : Int64} {products products' : List Product}

theorem find?_reverse_eq_some_iff {id : UInt64} {p : Product} :
    products.reverse.find? (fun q => q.id == id) = some p ↔ p.id = id ∧ IsLast products p := by
  rw [List.find?_eq_some_iff_append, beq_iff_eq]
  refine and_congr_right ?_
  rintro rfl
  -- What comes before it in the reversed list comes later in the list.
  constructor
  · rintro ⟨later, before, hsplit, hlater⟩
    refine ⟨before.reverse, later.reverse, ?_, by simpa using hlater⟩
    rw [← List.reverse_reverse products, hsplit]
    simp
  · rintro ⟨before, later, rfl, hlater⟩
    exact ⟨later.reverse, before.reverse, by simp, by simpa using hlater⟩

theorem isLast_iff {p : Product} :
    IsLast products p ↔ (products.filter fun q => q.id == p.id).getLast? = some p := by
  rw [← List.head?_reverse, ← List.filter_reverse, List.head?_filter, find?_reverse_eq_some_iff]
  simp

theorem find?_ofProducts_eq_some_iff {id : UInt64} {p : Product} :
    (ofProducts revision products).find? id = some p ↔ p.id = id ∧ IsLast products p := by
  rw [find?_ofProducts, find?_reverse_eq_some_iff]

theorem mem_ofProducts_iff {p : Product} :
    p ∈ (ofProducts revision products).products ↔ IsLast products p := by
  have hfind : (ofProducts revision products).find? p.id = some p ↔
      p ∈ (ofProducts revision products).products ∧ p.id = p.id :=
    (ascending_ofProducts revision products).find?_eq_some_iff
  have hlast : (ofProducts revision products).find? p.id = some p ↔
      p.id = p.id ∧ IsLast products p := find?_ofProducts_eq_some_iff
  simpa using hfind.symm.trans hlast

theorem Ascending.nodup_ids (h : Ascending products) : (products.map Product.id).Nodup :=
  List.pairwise_map.mpr (h.imp fun hlt => UInt64.ne_of_lt hlt)

/-- There are as many products as there are ids in the list. -/
theorem size_ofProducts :
    (ofProducts revision products).size = (products.map Product.id).dedup.length := by
  have hnodup := (ascending_ofProducts revision products).nodup_ids
  have hperm : ((ofProducts revision products).products.map Product.id).Perm
      (products.map Product.id).dedup := by
    refine (List.perm_ext_iff_of_nodup hnodup (List.nodup_dedup _)).mpr ?_
    intro id
    rw [mem_ids_ofProducts, List.mem_dedup]
  rw [size, ← List.length_map Product.id, hperm.length_eq]

theorem shows_ofProducts (revision : Int64) (products : List Product) :
    (ofProducts revision products).Shows revision products where
  revision_eq := rfl
  found _ _ := find?_ofProducts_eq_some_iff
  listed _ := mem_ofProducts_iff
  ascending := ascending_ofProducts revision products
  size_eq := size_ofProducts

theorem shows_initial : initial.Shows 0 [] :=
  shows_ofProducts 0 []

/-- There is only one such catalogue, and nothing else of the list matters. -/
theorem Shows.eq_of_isLast_iff {c c' : Catalogue} (h : c.Shows revision products)
    (h' : c'.Shows revision products') (hlast : ∀ p, IsLast products p ↔ IsLast products' p) :
    c = c' := by
  have hmem : ∀ p, p ∈ c.products ↔ p ∈ c'.products := by
    intro p
    rw [h.listed, h'.listed, hlast]
  have hperm : c.products.Perm c'.products :=
    (List.perm_ext_iff_of_nodup h.ascending.nodup_ids.of_map h'.ascending.nodup_ids.of_map).mpr hmem
  have hproducts : c.products = c'.products := by
    apply hperm.eq_of_pairwise _ h.ascending h'.ascending
    intro p q _ _ hpq hqp
    exact absurd (UInt64.lt_trans hpq hqp) (UInt64.lt_irrefl _)
  have hrevision : c.revision = c'.revision := h.revision_eq.trans h'.revision_eq.symm
  cases c
  cases c'
  cases hrevision
  cases hproducts
  rfl

/-- The order of products with distinct ids does not matter. -/
theorem ofProducts_eq_of_sameById (revision : Int64) (h : SameById products products') :
    ofProducts revision products = ofProducts revision products' := by
  apply (shows_ofProducts revision products).eq_of_isLast_iff (shows_ofProducts revision products')
  intro p
  rw [isLast_iff, isLast_iff, h p.id]

end Catalogue

namespace Registry

/-! ### Steps of a registry -/

/-- What is asked of a registry. -/
inductive Step where
  | publish (revision : Int64) (products : List Product)
  | lookup (id : UInt64)
  | snapshot
  | hold
  /-- Looks at a catalogue that somebody got hold of. -/
  | held (n : Nat)
  /-- Looks a product up in such a catalogue. -/
  | heldProduct (n : Nat) (id : UInt64)
  deriving DecidableEq

/-- What is answered. -/
inductive Answer where
  | catalogue (c : Catalogue)
  | product (p : Option Product)
  | number (n : Nat)
  /-- Nobody got hold of a catalogue with this number. -/
  | notHeld
  deriving DecidableEq

/-- The answer to a step, and the registry after it. -/
def step (r : Registry) : Step → Answer × Registry
  | .publish revision products =>
    let (previous, r) := r.publish (.ofProducts revision products)
    (.catalogue previous, r)
  | .lookup id => (.product (r.find? id), r)
  | .snapshot => (.catalogue r.current, r)
  | .hold =>
    let (n, r) := r.hold
    (.number n, r)
  | .held n =>
    match r.held? n with
    | some c => (.catalogue c, r)
    | none => (.notHeld, r)
  | .heldProduct n id =>
    match r.held? n with
    | some c => (.product (c.find? id), r)
    | none => (.notHeld, r)

/-- The registry after some steps. -/
def after (r : Registry) (steps : List Step) : Registry :=
  steps.foldl (fun r s => (r.step s).2) r

/-- The answers to some steps. -/
def answers (r : Registry) : List Step → List Answer
  | [] => []
  | s :: steps => (r.step s).1 :: answers (r.step s).2 steps

theorem after_concat (r : Registry) (steps : List Step) (s : Step) :
    r.after (steps ++ [s]) = ((r.after steps).step s).2 :=
  List.foldl_concat ..

/-- An answer is given by the registry as it is after the steps before. -/
theorem getElem?_answers (r : Registry) (before later : List Step) (s : Step) :
    (r.answers (before ++ s :: later))[before.length]? = some ((r.after before).step s).1 := by
  induction before generalizing r with
  | nil => rfl
  | cons first before ih => exact ih (r.step first).2

/-! ### What is current and what is held -/

/-- The list that a step publishes, at its revision. -/
def Step.published? : Step → Option (Int64 × List Product)
  | .publish revision products => some (revision, products)
  | _ => none

/-- The list that was published last, or the empty one at revision 0 if there
    was none. -/
inductive Published (steps : List Step) : Int64 → List Product → Prop
  | last {before later : List Step} {revision : Int64} {products : List Product}
    (steps_eq : steps = before ++ .publish revision products :: later)
    (later_none : ∀ s ∈ later, s.published? = none) : Published steps revision products
  | nothing (steps_none : ∀ s ∈ steps, s.published? = none) : Published steps 0 []

/-- After the steps the catalogue is current: it shows the list that was
    published last. -/
def Current (steps : List Step) (c : Catalogue) : Prop :=
  ∃ revision products, Published steps revision products ∧ c.Shows revision products

/-- How often somebody got hold of a catalogue. -/
def holds (steps : List Step) : Nat :=
  steps.count .hold

/-- Under the number somebody got hold of the catalogue, which was current
    then. -/
def Taken (steps : List Step) (n : Nat) (c : Catalogue) : Prop :=
  ∃ before later, steps = before ++ .hold :: later ∧ holds before = n ∧ Current before c

/-- What a step is answered after other steps. -/
inductive Told (before : List Step) : Step → Answer → Prop
  /-- Who publishes gets the catalogue that was current before. -/
  | publish {revision : Int64} {products : List Product} {c : Catalogue} (current : Current before c) :
    Told before (.publish revision products) (.catalogue c)
  | lookup {id : UInt64} {c : Catalogue} (current : Current before c) :
    Told before (.lookup id) (.product (c.find? id))
  | snapshot {c : Catalogue} (current : Current before c) : Told before .snapshot (.catalogue c)
  | hold : Told before .hold (.number (holds before))
  | held {n : Nat} {c : Catalogue} (taken : Taken before n c) :
    Told before (.held n) (.catalogue c)
  | heldProduct {n : Nat} {id : UInt64} {c : Catalogue} (taken : Taken before n c) :
    Told before (.heldProduct n id) (.product (c.find? id))
  | notHeld {n : Nat} (few : holds before ≤ n) : Told before (.held n) .notHeld
  | productNotHeld {n : Nat} {id : UInt64} (few : holds before ≤ n) :
    Told before (.heldProduct n id) .notHeld

section

variable {steps : List Step} {s : Step}

theorem published_publish (revision : Int64) (products : List Product) :
    Published (steps ++ [.publish revision products]) revision products :=
  .last rfl (List.forall_mem_nil _)

/-- No other step changes what was published last. -/
theorem Published.concat {revision : Int64} {products : List Product}
    (h : Published steps revision products) (hs : s.published? = none) :
    Published (steps ++ [s]) revision products := by
  have hconcat {others : List Step} (hothers : ∀ t ∈ others, t.published? = none) :
      ∀ t ∈ others ++ [s], t.published? = none := by
    intro t ht
    rcases List.mem_append.mp ht with ht | ht
    · exact hothers t ht
    · rw [List.mem_singleton.mp ht, hs]
  cases h with
  | last steps_eq later_none =>
    subst steps_eq
    exact .last (List.append_assoc _ _ _) (hconcat later_none)
  | nothing steps_none => exact .nothing (hconcat steps_none)

theorem Current.concat {c : Catalogue} (h : Current steps c) (hs : s.published? = none) :
    Current (steps ++ [s]) c := by
  obtain ⟨revision, products, hpublished, hshows⟩ := h
  exact ⟨revision, products, hpublished.concat hs, hshows⟩

/-- What somebody got hold of stays as it is, whatever comes. -/
theorem Taken.concat {n : Nat} {c : Catalogue} (h : Taken steps n c) : Taken (steps ++ [s]) n c := by
  obtain ⟨before, later, rfl, hn, hcurrent⟩ := h
  exact ⟨before, later ++ [s], List.append_assoc _ _ _, hn, hcurrent⟩

/-- What neither publishes nor gets hold of anything only looks. -/
theorem step_snd_eq_self (r : Registry) (hpublished : s.published? = none) (hhold : s ≠ .hold) :
    (r.step s).2 = r := by
  cases s with
  | publish revision products => cases hpublished
  | lookup id => rfl
  | snapshot => rfl
  | hold => exact absurd rfl hhold
  | held n =>
    rw [step]
    cases r.held? n with
    | none => rfl
    | some c => rfl
  | heldProduct n id =>
    rw [step]
    cases r.held? n with
    | none => rfl
    | some c => rfl

theorem holds_concat : holds (steps ++ [s]) = holds steps + if s = .hold then 1 else 0 := by
  simp [holds, List.count_append, List.count_singleton]

end

/-! ### Runs of a registry -/

/-- The registry is what the steps have left: it has the catalogue that is
    current, and those that somebody got hold of. -/
structure Accounts (r : Registry) (steps : List Step) : Prop where
  current : Current steps r.current
  length_held : r.held.length = holds steps
  taken : ∀ n c, r.held[n]? = some c → Taken steps n c

namespace Accounts

variable {r : Registry} {steps : List Step}

theorem new : Accounts {} [] where
  current := ⟨0, [], .nothing (List.forall_mem_nil _), Catalogue.shows_initial⟩
  length_held := rfl
  taken _ _ h := by cases h

/-- A step that only looks. -/
theorem look (h : r.Accounts steps) {s : Step} (hpublished : s.published? = none)
    (hhold : s ≠ .hold) : (r.step s).2.Accounts (steps ++ [s]) := by
  rw [step_snd_eq_self r hpublished hhold]
  constructor
  · exact h.current.concat hpublished
  · rw [holds_concat, if_neg hhold, h.length_held, Nat.add_zero]
  · intro n c hn
    exact (h.taken n c hn).concat

theorem publish (h : r.Accounts steps) (revision : Int64) (products : List Product) :
    (r.publish (.ofProducts revision products)).2.Accounts
      (steps ++ [.publish revision products]) where
  current := ⟨revision, products, published_publish revision products,
    Catalogue.shows_ofProducts revision products⟩
  length_held := by
    rw [holds_concat, if_neg (by simp), Nat.add_zero]
    exact h.length_held
  taken n c hn := (h.taken n c hn).concat

theorem hold (h : r.Accounts steps) : r.hold.2.Accounts (steps ++ [.hold]) where
  current := h.current.concat rfl
  length_held := by
    rw [holds_concat, if_pos rfl, ← h.length_held]
    exact List.length_append
  taken n c hn := by
    have hn : (r.held ++ [r.current])[n]? = some c := hn
    by_cases hlast : n < r.held.length
    · rw [List.getElem?_append_left hlast] at hn
      exact (h.taken n c hn).concat
    · -- The one that was taken last is the one that is current.
      rw [List.getElem?_append_right (Nat.not_lt.mp hlast), List.getElem?_singleton] at hn
      split at hn
      · obtain rfl := Option.some.inj hn
        exact ⟨steps, [], rfl, by rw [← h.length_held]; omega, h.current⟩
      · cases hn

/-- What a registry is stays so by every step. -/
theorem step (h : r.Accounts steps) (s : Step) : (r.step s).2.Accounts (steps ++ [s]) := by
  cases s with
  | publish revision products => exact h.publish revision products
  | lookup id => exact h.look rfl (by simp)
  | snapshot => exact h.look rfl (by simp)
  | hold => exact h.hold
  | held n => exact h.look rfl (by simp)
  | heldProduct n id => exact h.look rfl (by simp)

/-- What somebody got hold of is found under its number. -/
theorem held?_cases (h : r.Accounts steps) (n : Nat) :
    (∃ c, r.held? n = some c ∧ Taken steps n c) ∨ r.held? n = none ∧ holds steps ≤ n := by
  unfold held?
  cases hn : r.held[n]? with
  | none =>
    have hlength := List.getElem?_eq_none_iff.mp hn
    rw [h.length_held] at hlength
    exact .inr ⟨rfl, hlength⟩
  | some c => exact .inl ⟨c, rfl, h.taken n c hn⟩

theorem told (h : r.Accounts steps) (s : Step) : Told steps s (r.step s).1 := by
  cases s with
  | publish revision products => exact .publish h.current
  | lookup id => exact .lookup h.current
  | snapshot => exact .snapshot h.current
  | hold =>
    show Told steps .hold (.number r.held.length)
    rw [h.length_held]
    exact .hold
  | held n =>
    rw [Registry.step]
    rcases h.held?_cases n with ⟨c, hheld, htaken⟩ | ⟨hnone, hfew⟩
    · rw [hheld]
      exact .held htaken
    · rw [hnone]
      exact .notHeld hfew
  | heldProduct n id =>
    rw [Registry.step]
    rcases h.held?_cases n with ⟨c, hheld, htaken⟩ | ⟨hnone, hfew⟩
    · rw [hheld]
      exact .heldProduct htaken
    · rw [hnone]
      exact .productNotHeld hfew

end Accounts

theorem accounts_after (steps : List Step) : (({} : Registry).after steps).Accounts steps := by
  induction steps using List.reverseRecOn with
  | nil => exact .new
  | append_singleton steps s ih =>
    rw [after_concat]
    exact ih.step s

/-- Whatever is asked of a new registry, every answer is the one that the steps
    before it call for; and it does not matter in which order a list gives the
    products with distinct ids. -/
theorem answers_show_last_published_or_held_in_any_order :
    (∀ (before later : List Step) (s : Step), ∃ answer,
      (answers {} (before ++ s :: later))[before.length]? = some answer ∧ Told before s answer) ∧
    ∀ (revision : Int64) (products products' : List Product),
      Catalogue.SameById products products' →
      Catalogue.ofProducts revision products = Catalogue.ofProducts revision products' := by
  constructor
  · intro before later s
    exact ⟨_, getElem?_answers {} before later s, (accounts_after before).told s⟩
  · intro revision products products' h
    exact Catalogue.ofProducts_eq_of_sameById revision h

/-- The catalogue that is held has the later of two products with one id, and
    still has it when nothing is on sale any more. -/
theorem answers_show_last_published_or_held_in_any_order_duplicate :
    let sale (id left : UInt64) : Product :=
      { id, startTime := 0, endTime := 10, status := .normal, count := 1, left }
    let products := [sale 5 1, sale 2 1, sale 5 0]
    let products' := [sale 2 1, sale 5 1, sale 5 0]
    let before : List Step := [.publish 7 products, .hold, .publish 8 []]
    Catalogue.SameById products products' ∧
      (answers {} (before ++ .heldProduct 0 5 :: [.lookup 5]))[3]? =
        some (.product (some (sale 5 0))) ∧
      Told before (.heldProduct 0 5) (.product (some (sale 5 0))) ∧
      Catalogue.ofProducts 7 products = Catalogue.ofProducts 7 products' := by
  intro sale products products' before
  have hsame : Catalogue.SameById products products' := by
    intro id
    by_cases hid : (2 : UInt64) = id
    · subst hid
      decide
    · simp [products, products', List.filter_cons, sale, hid]
  obtain ⟨hanswers, horder⟩ := answers_show_last_published_or_held_in_any_order
  obtain ⟨answer, hanswer, htold⟩ := hanswers before [.lookup 5] (.heldProduct 0 5)
  have hgiven : (answers {} (before ++ .heldProduct 0 5 :: [.lookup 5]))[3]? =
      some (.product (some (sale 5 0))) := by decide
  obtain rfl : answer = .product (some (sale 5 0)) :=
    Option.some.inj (hanswer.symm.trans hgiven)
  exact ⟨hsame, hgiven, htold, horder 7 products products' hsame⟩

end Registry

end FlashSale
