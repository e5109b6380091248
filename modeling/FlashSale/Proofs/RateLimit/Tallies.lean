import FlashSale.RateLimit
import Mathlib.Algebra.Group.Nat.Defs
import Mathlib.Data.List.Nodup

/-! # What a limiter keeps

    A limiter has at most one tally of each user.  One attempt sweeps, and then
    replaces the tally of its own user and no other; these lemmas say so once,
    and nothing else looks into the list of tallies. -/

namespace FlashSale

/-- An attempt: who made it, and at which second. -/
structure Attempt where
  user : UInt64
  second : Int64
  deriving Repr, DecidableEq

/-- The tally of a user after an attempt, from the one that was kept. -/
def Tally.next (user : UInt64) (now : Int64) : Option Tally → Tally
  | none => { user, count := 1, second := now }
  | some old => old.observe now

@[simp] theorem Tally.observe_user (t : Tally) (now : Int64) : (t.observe now).user = t.user := by
  unfold Tally.observe
  split <;> rfl

@[simp] theorem Tally.observe_second (t : Tally) (now : Int64) :
    (t.observe now).second = now := by
  unfold Tally.observe
  split
  · assumption
  · rfl

@[simp] theorem Tally.next_second (user : UInt64) (now : Int64) (kept : Option Tally) :
    (Tally.next user now kept).second = now := by
  cases kept <;> simp [Tally.next]

/-- Counting stops at the greatest number that fits. -/
theorem Tally.toNat_increase (n : UInt32) :
    (Tally.increase n).toNat = min (n.toNat + 1) (2 ^ 32 - 1) := by
  unfold Tally.increase
  split
  · next h => subst h; rfl
  · next h =>
    -- Below the greatest number the sum does not wrap around.
    have hne : n.toNat ≠ 2 ^ 32 - 1 := fun heq => h (UInt32.toNat_inj.mp heq)
    have hlt := n.toNat_lt
    rw [UInt32.toNat_add, UInt32.toNat_one]
    omega

namespace RateLimiter

/-! ### Sequences of attempts -/

/-- The decisions on attempts that come one after the other. -/
def decisions (l : RateLimiter) : List Attempt → List Decision
  | [] => []
  | a :: rest =>
    (l.observe a.user a.second).1 :: (l.observe a.user a.second).2.decisions rest

/-! ### One tally a user -/

/-- No user has two tallies. -/
def Distinct (l : RateLimiter) : Prop :=
  (l.tallies.map Tally.user).Nodup

theorem distinct_ofLimit (limit : UInt32) : (ofLimit limit).Distinct :=
  List.nodup_nil

theorem tally?_eq_some_iff {l : RateLimiter} (h : l.Distinct) {user : UInt64} {t : Tally} :
    l.tally? user = some t ↔ t ∈ l.tallies ∧ t.user = user := by
  constructor
  · intro ht
    exact ⟨List.mem_of_find?_eq_some ht, by simpa using List.find?_some ht⟩
  · rintro ⟨hmem, huser⟩
    cases hfound : l.tally? user with
    | none =>
      have := List.find?_eq_none.mp hfound t hmem
      simp [huser] at this
    | some t' =>
      have hmem' : t' ∈ l.tallies := List.mem_of_find?_eq_some hfound
      have huser' : t'.user = user := by simpa using List.find?_some hfound
      -- Two tallies of one user are one.
      rw [List.inj_on_of_nodup_map h hmem' hmem (huser'.trans huser.symm)]

theorem tally?_eq_none_iff {l : RateLimiter} {user : UInt64} :
    l.tally? user = none ↔ ∀ t ∈ l.tallies, t.user ≠ user := by
  simp [tally?, List.find?_eq_none]

theorem tally?_user {l : RateLimiter} {user : UInt64} {t : Tally} (h : l.tally? user = some t) :
    t.user = user := by
  simpa using List.find?_some h

/-! ### Sweeping -/

@[simp] theorem sweep_limit (l : RateLimiter) (now : Int64) : (l.sweep now).limit = l.limit := by
  unfold sweep
  split <;> rfl

@[simp] theorem sweep_sweptAt (l : RateLimiter) (now : Int64) : (l.sweep now).sweptAt = now := by
  unfold sweep
  split
  · assumption
  · rfl

theorem mem_sweep {l : RateLimiter} {now : Int64} {t : Tally} :
    t ∈ (l.sweep now).tallies ↔ t ∈ l.tallies ∧ (l.sweptAt = now ∨ now - 1 ≤ t.second) := by
  unfold sweep
  split
  · next h => simp [h]
  · next h => simp [h]

theorem distinct_sweep {l : RateLimiter} (h : l.Distinct) (now : Int64) :
    (l.sweep now).Distinct := by
  unfold sweep
  split
  · exact h
  · exact h.sublist (List.Sublist.map _ List.filter_sublist)

/-- A sweep keeps the tallies of the last two seconds, and all of them if it
    has been done at this second already. -/
theorem tally?_sweep {l : RateLimiter} (h : l.Distinct) {now : Int64} {user : UInt64} {t : Tally} :
    (l.sweep now).tally? user = some t ↔
      l.tally? user = some t ∧ (l.sweptAt = now ∨ now - 1 ≤ t.second) := by
  rw [tally?_eq_some_iff (distinct_sweep h now), tally?_eq_some_iff h, mem_sweep]
  tauto

/-! ### One attempt -/

@[simp] theorem observe_limit (l : RateLimiter) (user : UInt64) (now : Int64) :
    (l.observe user now).2.limit = l.limit := by
  unfold observe
  dsimp only
  split <;> simp

@[simp] theorem observe_sweptAt (l : RateLimiter) (user : UInt64) (now : Int64) :
    (l.observe user now).2.sweptAt = now := by
  unfold observe
  dsimp only
  split <;> simp

/-- Only the tally of the user at this very second can throttle. -/
theorem observe_eq_throttle_iff {l : RateLimiter} {user : UInt64} {now : Int64} :
    (l.observe user now).1 = .throttle ↔
      ∃ old, (l.sweep now).tally? user = some old ∧ old.second = now ∧
        l.limit < Tally.increase old.count := by
  unfold observe
  dsimp only
  split
  · next h => simp [h]
  · next old h =>
    by_cases hs : old.second = now
    · simp [h, hs, Tally.observe]
    · -- A tally of another second starts over and cannot throttle.
      simp [h, hs]

theorem distinct_observe {l : RateLimiter} (h : l.Distinct) (user : UInt64) (now : Int64) :
    (l.observe user now).2.Distinct := by
  have hswept := distinct_sweep h now
  unfold observe
  dsimp only
  split
  · next hnone =>
    refine List.nodup_cons.mpr ⟨?_, hswept⟩
    intro hmem
    obtain ⟨t, ht, huser⟩ := List.mem_map.mp hmem
    exact tally?_eq_none_iff.mp hnone t ht huser
  · next old hold =>
    -- The tally is replaced where it stands, so the users stay as they are.
    have husers : (((l.sweep now).tallies.map fun t =>
        if t.user = user then old.observe now else t).map Tally.user) =
          (l.sweep now).tallies.map Tally.user := by
      rw [List.map_map]
      apply List.map_congr_left
      intro t _
      by_cases ht : t.user = user
      · simp [ht, tally?_user hold]
      · simp [ht]
    simpa only [Distinct, husers] using hswept

/-- After an attempt its user has the next tally. -/
theorem tally?_observe_self (l : RateLimiter) (user : UInt64) (now : Int64) :
    (l.observe user now).2.tally? user =
      some (Tally.next user now ((l.sweep now).tally? user)) := by
  unfold observe
  dsimp only
  split
  · next h =>
    rw [h]
    simp [tally?, Tally.next]
  · next old h =>
    have huser := tally?_user h
    rw [h, tally?, List.find?_map]
    have hsame : ((fun t : Tally => t.user == user) ∘ fun t =>
        if t.user = user then old.observe now else t) = fun t => t.user == user := by
      funext t
      by_cases ht : t.user = user <;> simp [ht, huser]
    rw [hsame, show (l.sweep now).tallies.find? (fun t => t.user == user) = some old from h]
    simp [huser, Tally.next]

/-- An attempt leaves the others with what the sweep has left them. -/
theorem tally?_observe_of_ne {l : RateLimiter} {user other : UInt64} (hne : other ≠ user)
    (now : Int64) : (l.observe user now).2.tally? other = (l.sweep now).tally? other := by
  unfold observe
  dsimp only
  split
  · next h => simp [tally?, Ne.symm hne]
  · next old h =>
    rw [tally?, List.find?_map]
    have huser := tally?_user h
    -- Replacing a tally of the one user cannot make it one of the other.
    have hsame : ((fun t : Tally => t.user == other) ∘ fun t =>
        if t.user = user then old.observe now else t) = fun t => t.user == other := by
      funext t
      by_cases ht : t.user = user <;> simp [ht, huser]
    rw [hsame]
    cases hfound : (l.sweep now).tally? other with
    | none => rw [show (l.sweep now).tallies.find? (fun t => t.user == other) = none from hfound]; rfl
    | some t =>
      rw [show (l.sweep now).tallies.find? (fun t => t.user == other) = some t from hfound]
      simp [tally?_user hfound, hne]

end RateLimiter

end FlashSale
