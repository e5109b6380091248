import FlashSale.Proofs.RateLimit.Tallies
import FlashSale.Proofs.Word

/-! # Eviction cannot be noticed

    The limiter drops tallies that are more than one second old and stops
    counting at the greatest number that fits.  The ideal limiter does neither:
    it keeps a tally of every user for ever and counts without bound.

    As long as the clock steps back by no more than one second at a time, both
    decide alike: a dropped tally belongs to a second that does not come back.
    With any clock the limiter throttles nobody whom the ideal one would let
    pass, for what it has dropped it can only count anew. -/

namespace FlashSale

/-! ### The ideal limiter -/

/-- A limiter that forgets nothing. -/
structure IdealLimiter where
  limit : UInt32
  /-- For each user the second of the last attempt, and before it how many
      attempts in a row were made at that second. -/
  last : UInt64 → Option (Nat × Int64)

namespace IdealLimiter

/-- An ideal limiter that has seen nobody. -/
def ofLimit (limit : UInt32) : IdealLimiter :=
  { limit, last := fun _ => none }

/-- Keeps a number of attempts and a second for a user. -/
def note (l : IdealLimiter) (user : UInt64) (count : Nat) (second : Int64) : IdealLimiter :=
  { l with last := fun other => if other = user then some (count, second) else l.last other }

/-- Counts an attempt and decides on it. -/
def observe (l : IdealLimiter) (user : UInt64) (now : Int64) : Decision × IdealLimiter :=
  match l.last user with
  | none => (.accept, l.note user 1 now)
  | some (count, second) =>
    if second ≠ now then (.accept, l.note user 1 now)
    else
      (if l.limit.toNat < count + 1 then .throttle else .accept, l.note user (count + 1) now)

/-- The decisions on attempts that come one after the other. -/
def decisions (l : IdealLimiter) : List Attempt → List Decision
  | [] => []
  | a :: rest =>
    (l.observe a.user a.second).1 :: (l.observe a.user a.second).2.decisions rest

/-- How many attempts of a user are counted at a second. -/
def count (l : IdealLimiter) (user : UInt64) (now : Int64) : Nat :=
  match l.last user with
  | none => 0
  | some (count, second) => if second = now then count else 0

theorem count_eq_zero_iff {l : IdealLimiter} {user : UInt64} {now : Int64} :
    l.count user now = 0 ↔ ∀ n, l.last user = some (n, now) → n = 0 := by
  unfold count
  cases l.last user with
  | none => simp
  | some kept =>
    obtain ⟨n, second⟩ := kept
    by_cases h : second = now <;> simp [h]

theorem count_of_last {l : IdealLimiter} {user : UInt64} {n : Nat} {now : Int64}
    (h : l.last user = some (n, now)) : l.count user now = n := by
  simp [count, h]

theorem count_of_last_of_ne {l : IdealLimiter} {user : UInt64} {n : Nat} {second now : Int64}
    (h : l.last user = some (n, second)) (hne : second ≠ now) : l.count user now = 0 := by
  simp [count, h, hne]

@[simp] theorem observe_limit (l : IdealLimiter) (user : UInt64) (now : Int64) :
    (l.observe user now).2.limit = l.limit := by
  unfold observe
  split
  · rfl
  · split <;> rfl

theorem observe_eq_throttle_iff {l : IdealLimiter} {user : UInt64} {now : Int64} :
    (l.observe user now).1 = .throttle ↔
      ∃ n, l.last user = some (n, now) ∧ l.limit.toNat < n + 1 := by
  unfold observe
  split
  · next h => simp [h]
  · next n second h =>
    by_cases hs : second = now
    · simp [h, hs]
    · simp [h, hs]

theorem last_observe_self (l : IdealLimiter) (user : UInt64) (now : Int64) :
    (l.observe user now).2.last user = some (l.count user now + 1, now) := by
  unfold observe count
  split
  · simp [note]
  · next n second h => by_cases hs : second = now <;> simp [hs, note]

theorem last_observe_of_ne {l : IdealLimiter} {user other : UInt64} (hne : other ≠ user)
    (now : Int64) : (l.observe user now).2.last other = l.last other := by
  unfold observe
  split
  · simp [note, hne]
  · split <;> simp [note, hne]

end IdealLimiter

/-! ### With any clock -/

/-- What the limiter has kept is what the ideal one has, with no higher
    count. -/
def RateLimiter.Below (l : RateLimiter) (i : IdealLimiter) : Prop :=
  ∀ user t, l.tally? user = some t →
    ∃ n, i.last user = some (n, t.second) ∧ t.count.toNat ≤ n

namespace RateLimiter

variable {l : RateLimiter} {i : IdealLimiter}

theorem below_observe (hd : l.Distinct) (h : l.Below i) (user : UInt64) (now : Int64) :
    (l.observe user now).2.Below (i.observe user now).2 := by
  intro other t ht
  by_cases hother : other = user
  · subst hother
    rw [tally?_observe_self] at ht
    obtain rfl := Option.some.inj ht
    rw [IdealLimiter.last_observe_self, Tally.next_second]
    refine ⟨_, rfl, ?_⟩
    cases hkept : (l.sweep now).tally? other with
    | none =>
      -- Both have counted this attempt, and the limiter has counted no other.
      simp [Tally.next]
    | some old =>
      obtain ⟨n, hn, hle⟩ := h other old ((tally?_sweep hd).mp hkept).1
      by_cases hs : old.second = now
      · rw [hs] at hn
        simp only [Tally.next, Tally.observe, hs, if_true, Tally.toNat_increase,
          IdealLimiter.count_of_last hn]
        omega
      · simp [Tally.next, Tally.observe, hs]
  · rw [tally?_observe_of_ne hother] at ht
    rw [IdealLimiter.last_observe_of_ne hother]
    exact h other t ((tally?_sweep hd).mp ht).1

theorem throttle_of_below (hd : l.Distinct) (h : l.Below i) (hlimit : l.limit = i.limit)
    {user : UInt64} {now : Int64} (ht : (l.observe user now).1 = .throttle) :
    (i.observe user now).1 = .throttle := by
  obtain ⟨old, hold, hs, hcount⟩ := observe_eq_throttle_iff.mp ht
  obtain ⟨n, hn, hle⟩ := h user old ((tally?_sweep hd).mp hold).1
  refine IdealLimiter.observe_eq_throttle_iff.mpr ⟨n, hs ▸ hn, ?_⟩
  rw [UInt32.lt_iff_toNat_lt, Tally.toNat_increase, hlimit] at hcount
  omega

theorem throttle_of_decisions_below (hd : l.Distinct) (h : l.Below i) (hlimit : l.limit = i.limit)
    (attempts : List Attempt) (n : Nat) (ht : (l.decisions attempts)[n]? = some .throttle) :
    (i.decisions attempts)[n]? = some .throttle := by
  induction attempts generalizing l i n with
  | nil => simp [decisions] at ht
  | cons a rest ih =>
    cases n with
    | zero =>
      simp only [decisions, IdealLimiter.decisions, List.getElem?_cons_zero,
        Option.some.injEq] at ht ⊢
      exact throttle_of_below hd h hlimit ht
    | succ n =>
      simp only [decisions, IdealLimiter.decisions, List.getElem?_cons_succ] at ht ⊢
      exact ih (distinct_observe hd _ _) (below_observe hd h _ _) (by simpa using hlimit) n ht

/-! ### With a clock that steps back by one second at most -/

/-- No attempt is made more than one second before an earlier one. -/
def Steady (attempts : List Attempt) : Prop :=
  attempts.Pairwise fun earlier later => earlier.second.toInt - 1 ≤ later.second.toInt

/-- The limiter has kept what the ideal one has, but for seconds at which none
    of the attempts to come is made. -/
structure Agrees (l : RateLimiter) (i : IdealLimiter) (toCome : List Attempt) : Prop where
  distinct : l.Distinct
  kept : ∀ user t, l.tally? user = some t →
    ∃ n, i.last user = some (n, t.second) ∧ t.count.toNat = min n (2 ^ 32 - 1)
  dropped : ∀ user n second, l.tally? user = none → i.last user = some (n, second) →
    ∀ a ∈ toCome, a.second ≠ second

theorem agrees_ofLimit (limit : UInt32) (attempts : List Attempt) :
    (ofLimit limit).Agrees (.ofLimit limit) attempts where
  distinct := distinct_ofLimit limit
  kept := by
    intro user t ht
    simp [ofLimit, tally?] at ht
  dropped := by
    intro user n second _ hlast
    simp [IdealLimiter.ofLimit] at hlast

/-- What the ideal limiter has counted at this very second was not swept
    away. -/
theorem Agrees.tally_of_last {a : Attempt} {rest : List Attempt} (h : l.Agrees i (a :: rest))
    (ha : Int64.minValue < a.second) {n : Nat} (hlast : i.last a.user = some (n, a.second)) :
    ∃ old, (l.sweep a.second).tally? a.user = some old ∧ old.second = a.second ∧
      old.count.toNat = min n (2 ^ 32 - 1) := by
  cases hold : l.tally? a.user with
  | none => exact absurd rfl (h.dropped a.user n a.second hold hlast a (by simp))
  | some old =>
    obtain ⟨n', hlast', hcount⟩ := h.kept a.user old hold
    obtain ⟨rfl, hsecond⟩ : n' = n ∧ old.second = a.second := by
      simpa [hlast'] using hlast
    refine ⟨old, (tally?_sweep h.distinct).mpr ⟨hold, Or.inr ?_⟩, hsecond, hcount⟩
    -- A tally of this very second is young enough.
    rw [hsecond, Int64.le_iff_toInt_le, toInt_sub_one ha]
    omega

theorem Agrees.observe_fst {a : Attempt} {rest : List Attempt} (h : l.Agrees i (a :: rest))
    (hlimit : l.limit = i.limit) (hbound : l.limit.toNat < 2 ^ 32 - 1)
    (ha : Int64.minValue < a.second) :
    (l.observe a.user a.second).1 = (i.observe a.user a.second).1 := by
  have hiff : (l.observe a.user a.second).1 = .throttle ↔
      (i.observe a.user a.second).1 = .throttle := by
    rw [observe_eq_throttle_iff, IdealLimiter.observe_eq_throttle_iff, ← hlimit]
    -- The limit is below the number at which counting stops, so both counts are above
    -- it or neither is.
    constructor
    · rintro ⟨old, hold, hs, hlt⟩
      obtain ⟨n, hlast, hcount⟩ := h.kept a.user old ((tally?_sweep h.distinct).mp hold).1
      refine ⟨n, hs ▸ hlast, ?_⟩
      rw [UInt32.lt_iff_toNat_lt, Tally.toNat_increase] at hlt
      omega
    · rintro ⟨n, hlast, hlt⟩
      obtain ⟨old, hold, hs, hcount⟩ := h.tally_of_last ha hlast
      refine ⟨old, hold, hs, ?_⟩
      rw [UInt32.lt_iff_toNat_lt, Tally.toNat_increase]
      omega
  cases hl : (l.observe a.user a.second).1 <;> cases hi : (i.observe a.user a.second).1 <;>
    simp_all

theorem Agrees.observe_snd {a : Attempt} {rest : List Attempt} (h : l.Agrees i (a :: rest))
    (ha : Int64.minValue < a.second)
    (hsteady : ∀ b ∈ rest, a.second.toInt - 1 ≤ b.second.toInt) :
    (l.observe a.user a.second).2.Agrees (i.observe a.user a.second).2 rest where
  distinct := distinct_observe h.distinct _ _
  kept := by
    intro user t ht
    by_cases huser : user = a.user
    · subst huser
      rw [tally?_observe_self] at ht
      obtain rfl := Option.some.inj ht
      rw [IdealLimiter.last_observe_self, Tally.next_second]
      refine ⟨_, rfl, ?_⟩
      cases hkept : (l.sweep a.second).tally? a.user with
      | none =>
        -- Had the ideal limiter counted here already, the sweep would have left a tally.
        have hzero : i.count a.user a.second = 0 := by
          refine IdealLimiter.count_eq_zero_iff.mpr fun n hlast => ?_
          obtain ⟨old, hold, -⟩ := h.tally_of_last ha hlast
          simp [hkept] at hold
        simp [Tally.next, hzero]
      | some old =>
        obtain ⟨n, hlast, hcount⟩ := h.kept a.user old ((tally?_sweep h.distinct).mp hkept).1
        by_cases hs : old.second = a.second
        · rw [hs] at hlast
          simp only [Tally.next, Tally.observe, hs, if_true, Tally.toNat_increase,
            IdealLimiter.count_of_last hlast]
          omega
        · simp [Tally.next, Tally.observe, hs, IdealLimiter.count_of_last_of_ne hlast hs]
    · rw [tally?_observe_of_ne huser] at ht
      rw [IdealLimiter.last_observe_of_ne huser]
      exact h.kept user t ((tally?_sweep h.distinct).mp ht).1
  dropped := by
    intro user n second hnone hlast b hb
    by_cases huser : user = a.user
    · subst huser
      simp [tally?_observe_self] at hnone
    · rw [tally?_observe_of_ne huser] at hnone
      rw [IdealLimiter.last_observe_of_ne huser] at hlast
      cases hold : l.tally? user with
      | none => exact h.dropped user n second hold hlast b (by simp [hb])
      | some t =>
        -- The tally was there until this sweep, so it is older than the clock can step back.
        obtain ⟨n', hlast', -⟩ := h.kept user t hold
        obtain ⟨rfl, rfl⟩ : n' = n ∧ t.second = second := by simpa [hlast'] using hlast
        have hold : ¬ a.second - 1 ≤ t.second := by
          intro hle
          rw [(tally?_sweep h.distinct).mpr ⟨hold, Or.inr hle⟩] at hnone
          simp at hnone
        rw [Int64.le_iff_toInt_le, toInt_sub_one ha] at hold
        have hback := hsteady b hb
        intro heq
        rw [heq] at hback
        exact hold hback

theorem Agrees.decisions_eq {attempts : List Attempt} (h : l.Agrees i attempts)
    (hlimit : l.limit = i.limit) (hbound : l.limit.toNat < 2 ^ 32 - 1)
    (hrange : ∀ a ∈ attempts, Int64.minValue < a.second) (hsteady : Steady attempts) :
    l.decisions attempts = i.decisions attempts := by
  induction attempts generalizing l i with
  | nil => rfl
  | cons a rest ih =>
    have ha := hrange a (by simp)
    obtain ⟨hback, hsteady⟩ := List.pairwise_cons.mp hsteady
    have hfst := h.observe_fst hlimit hbound ha
    have hrest := ih (h.observe_snd ha hback) (by simpa using hlimit) (by simpa using hbound)
      (fun b hb => hrange b (by simp [hb])) hsteady
    simp only [decisions, IdealLimiter.decisions, hfst, hrest]

/-! ### Both together -/

/-- Nobody can tell the limiter from the ideal one while the clock is steady,
    and with any clock the limiter throttles only where the ideal one does. -/
theorem decisions_ideal (limit : UInt32) (attempts : List Attempt) :
    (limit.toNat < 2 ^ 32 - 1 → (∀ a ∈ attempts, Int64.minValue < a.second) → Steady attempts →
      (ofLimit limit).decisions attempts = (IdealLimiter.ofLimit limit).decisions attempts) ∧
    ∀ n : Nat, ((ofLimit limit).decisions attempts)[n]? = some .throttle →
      ((IdealLimiter.ofLimit limit).decisions attempts)[n]? = some .throttle := by
  have hagrees := agrees_ofLimit limit attempts
  refine ⟨fun hbound hrange hsteady => ?_, fun n ht => ?_⟩
  · exact hagrees.decisions_eq rfl hbound hrange hsteady
  · refine throttle_of_decisions_below hagrees.distinct ?_ rfl attempts n ht
    intro user t hnone
    simp [ofLimit, tally?] at hnone

/-- The tally of user 1 is swept away at second 12, and then the clock steps back
    to second 11, where that user begins anew in any case. -/
theorem decisions_ideal_after_sweep :
    let attempts : List Attempt := [⟨1, 10⟩, ⟨1, 10⟩, ⟨2, 12⟩, ⟨1, 11⟩, ⟨1, 11⟩]
    (1 : UInt32).toNat < 2 ^ 32 - 1 ∧ (∀ a ∈ attempts, Int64.minValue < a.second) ∧
    Steady attempts ∧
    (ofLimit 1).decisions attempts = (IdealLimiter.ofLimit 1).decisions attempts := by
  intro attempts
  have hrange : ∀ a ∈ attempts, Int64.minValue < a.second := by decide
  have hsteady : Steady attempts := by
    unfold Steady
    decide
  exact ⟨by decide, hrange, hsteady, (decisions_ideal 1 attempts).1 (by decide) hrange hsteady⟩

-- Two seconds back are too many: what was swept away would still have counted.
example : (ofLimit 1).decisions [⟨1, 10⟩, ⟨2, 12⟩, ⟨1, 10⟩] ≠
    (IdealLimiter.ofLimit 1).decisions [⟨1, 10⟩, ⟨2, 12⟩, ⟨1, 10⟩] := by
  decide

end RateLimiter

end FlashSale
