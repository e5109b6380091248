import Mathlib.Data.List.Forall2

/-! # Lists that are read item by item

    Reading a list succeeds if every item can be read, and otherwise it comes
    out as the first item that cannot. -/

namespace FlashSale

theorem exists_of_mem_of_forall₂ {α β : Type} {R : α → β → Prop} {xs : List α} {ys : List β}
    (h : List.Forall₂ R xs ys) {x : α} (hx : x ∈ xs) : ∃ y ∈ ys, R x y := by
  induction h with
  | nil => cases hx
  | cons first _ ih =>
    rcases List.mem_cons.mp hx with rfl | hx
    · exact ⟨_, List.mem_cons_self, first⟩
    · obtain ⟨y, hy, hxy⟩ := ih hx
      exact ⟨y, List.mem_cons_of_mem _ hy, hxy⟩

theorem exists_forall₂ {α β : Type} {R : α → β → Prop} {xs : List α} (h : ∀ x ∈ xs, ∃ y, R x y) :
    ∃ ys, List.Forall₂ R xs ys := by
  induction xs with
  | nil => exact ⟨[], .nil⟩
  | cons x xs ih =>
    obtain ⟨⟨y, hy⟩, hothers⟩ := List.forall_mem_cons.mp h
    obtain ⟨ys, hys⟩ := ih hothers
    exact ⟨y :: ys, .cons hy hys⟩

theorem mapM_eq_pure_of_forall₂ {m : Type → Type} [Monad m] [LawfulMonad m] {α β : Type}
    {f : α → m β} {xs : List α} {ys : List β} (h : List.Forall₂ (fun x y => f x = pure y) xs ys) :
    xs.mapM f = pure ys := by
  induction h with
  | nil => rfl
  | cons first _ ih => rw [List.mapM_cons, first, ih, pure_bind, pure_bind]

theorem mapM_eq_none_of_mem {α β : Type} {f : α → Option β} {xs : List α} {x : α} (hx : x ∈ xs)
    (h : f x = none) : xs.mapM f = none := by
  induction xs with
  | nil => cases hx
  | cons y ys ih =>
    rw [List.mapM_cons]
    rcases List.mem_cons.mp hx with rfl | hx
    · rw [h]
      rfl
    · rw [ih hx]
      cases f y <;> rfl

/-- The first item that cannot be read decides, whatever comes behind it. -/
theorem mapM_eq_error_of_append {ε α β : Type} {f : α → Except ε β} {before after : List α} {x : α}
    {e : ε} (hbefore : ∀ y ∈ before, ∃ z, f y = .ok z) (hx : f x = .error e) :
    (before ++ x :: after).mapM f = .error e := by
  induction before with
  | nil =>
    rw [List.nil_append, List.mapM_cons, hx]
    rfl
  | cons y before ih =>
    obtain ⟨⟨z, hz⟩, hothers⟩ := List.forall_mem_cons.mp hbefore
    rw [List.cons_append, List.mapM_cons, hz, ih hothers]
    rfl

/-! ### What is read and what is not -/

section

variable {ε α β : Type} {f : α → Except ε β} {xs : List α}

theorem mapM_eq_ok_iff {ys : List β} :
    xs.mapM f = .ok ys ↔ List.Forall₂ (fun x y => f x = .ok y) xs ys := by
  refine ⟨fun h => ?_, mapM_eq_pure_of_forall₂⟩
  induction xs generalizing ys with
  | nil =>
    obtain rfl := Except.ok.inj h
    exact .nil
  | cons x xs ih =>
    rw [List.mapM_cons] at h
    cases hx : f x with
    | error e =>
      rw [hx] at h
      cases h
    | ok y =>
      cases hothers : xs.mapM f with
      | error e =>
        rw [hx, hothers] at h
        cases h
      | ok others =>
        rw [hx, hothers] at h
        obtain rfl := Except.ok.inj h
        exact .cons hx (ih hothers)

/-- It fails by the first item that cannot be read. -/
theorem mapM_eq_error_iff {e : ε} :
    xs.mapM f = .error e ↔ ∃ before x after ys, xs = before ++ x :: after ∧
      List.Forall₂ (fun x y => f x = .ok y) before ys ∧ f x = .error e := by
  constructor
  · intro h
    induction xs with
    | nil => cases h
    | cons x xs ih =>
      cases hx : f x with
      | error e' =>
        rw [List.mapM_cons, hx] at h
        obtain rfl := Except.error.inj h
        exact ⟨[], x, xs, [], rfl, .nil, hx⟩
      | ok y =>
        cases hothers : xs.mapM f with
        | error e' =>
          rw [List.mapM_cons, hx, hothers] at h
          obtain rfl := Except.error.inj h
          obtain ⟨before, z, after, ys, rfl, hbefore, hz⟩ := ih hothers
          exact ⟨x :: before, z, after, y :: ys, rfl, .cons hx hbefore, hz⟩
        | ok others =>
          rw [List.mapM_cons, hx, hothers] at h
          cases h
  · rintro ⟨before, x, after, ys, rfl, hbefore, hx⟩
    refine mapM_eq_error_of_append (fun y hy => ?_) hx
    obtain ⟨z, -, hz⟩ := exists_of_mem_of_forall₂ hbefore hy
    exact ⟨z, hz⟩

end

end FlashSale
