import FlashSale.Proofs.RateLimit.Eviction

/-! # Attempts in the order of their seconds

    If the clock never steps back, all attempts of a user at one second stand
    in a row among the attempts of that user.  The first ones up to the limit
    pass, and the others are throttled, whatever other users do in between. -/

namespace FlashSale

/-- Nobody makes an attempt at an earlier second than somebody before. -/
def Ordered (attempts : List Attempt) : Prop :=
  attempts.Pairwise fun earlier later => earlier.second ≤ later.second

/-- The decisions on those attempts that a given one is equal to. -/
def decisionsOn (a : Attempt) (attempts : List Attempt) (decisions : List Decision) :
    List Decision :=
  ((attempts.zip decisions).filter fun p => p.1 == a).map Prod.snd

@[simp] theorem decisionsOn_nil (a : Attempt) (decisions : List Decision) :
    decisionsOn a [] decisions = [] := by
  simp [decisionsOn]

theorem decisionsOn_cons (a b : Attempt) (rest : List Attempt) (d : Decision)
    (decisions : List Decision) :
    decisionsOn a (b :: rest) (d :: decisions) =
      if b = a then d :: decisionsOn a rest decisions else decisionsOn a rest decisions := by
  by_cases h : b = a <;> simp [decisionsOn, h]

namespace IdealLimiter

variable {l : IdealLimiter}

theorem observe_fst (hlimit : l.limit ≠ 0) (user : UInt64) (now : Int64) :
    (l.observe user now).1 = if l.count user now < l.limit.toNat then .accept else .throttle := by
  have hpos : 0 < l.limit.toNat :=
    Nat.pos_of_ne_zero fun h => hlimit (UInt32.toNat_inj.mp h)
  unfold observe count
  split
  · simp [hpos]
  · next n second h =>
    by_cases hs : second = now
    · by_cases hn : n < l.limit.toNat
      · simp [hs, hn, Nat.not_lt.mpr (Nat.succ_le_of_lt hn)]
      · simp [hs, hn, Nat.lt_succ_of_le (Nat.le_of_not_lt hn)]
    · simp [hs, hpos]

theorem count_observe_self (l : IdealLimiter) (user : UInt64) (now : Int64) :
    (l.observe user now).2.count user now = l.count user now + 1 :=
  count_of_last (last_observe_self l user now)

/-- A user counted at a second was last seen at it. -/
theorem last_of_count_ne_zero {user : UInt64} {now : Int64} (h : l.count user now ≠ 0) :
    l.last user = some (l.count user now, now) := by
  unfold count at h ⊢
  split
  · next hnone => simp [hnone] at h
  · next n second hlast =>
    by_cases hs : second = now
    · simp [hlast, hs]
    · simp [hlast, hs] at h

/-- No attempt to come is earlier than what is kept of its user. -/
def Behind (l : IdealLimiter) (toCome : List Attempt) : Prop :=
  ∀ user n second, l.last user = some (n, second) →
    ∀ a ∈ toCome, a.user = user → second ≤ a.second

theorem behind_observe {b : Attempt} {rest : List Attempt} (h : l.Behind (b :: rest))
    (hordered : ∀ a ∈ rest, b.second ≤ a.second) :
    (l.observe b.user b.second).2.Behind rest := by
  intro user n second hlast a ha hauser
  by_cases huser : user = b.user
  · subst huser
    rw [last_observe_self] at hlast
    obtain ⟨-, rfl⟩ : l.count b.user b.second + 1 = n ∧ b.second = second := by simpa using hlast
    exact hordered a ha
  · rw [last_observe_of_ne huser] at hlast
    exact h user n second hlast a (by simp [ha]) hauser

/-- Once the clock has gone on, a second does not come back. -/
theorem count_eq_zero_of_passed {a b : Attempt} {rest : List Attempt} (h : l.Behind (b :: rest))
    (hordered : ∀ c ∈ rest, b.second ≤ c.second) (huser : b.user = a.user)
    (hcounted : l.count a.user a.second ≠ 0) (hne : b.second ≠ a.second) : rest.count a = 0 := by
  have hle := h a.user _ a.second (last_of_count_ne_zero hcounted) b (by simp) huser
  refine List.count_eq_zero.mpr fun hmem => hne ?_
  exact Int64.le_antisymm (hordered a hmem) hle

/-- Of equal attempts the first ones pass, as many as are left of the limit. -/
theorem decisionsOn_ordered (hlimit : l.limit ≠ 0) (a : Attempt) {attempts : List Attempt}
    (hordered : Ordered attempts) (hbehind : l.Behind attempts) :
    decisionsOn a attempts (l.decisions attempts) =
      List.replicate (min (attempts.count a) (l.limit.toNat - l.count a.user a.second)) .accept ++
      List.replicate (attempts.count a - (l.limit.toNat - l.count a.user a.second)) .throttle := by
  induction attempts generalizing l with
  | nil => simp
  | cons b rest ih =>
    obtain ⟨hfirst, hrest⟩ := List.pairwise_cons.mp hordered
    have ih := ih (by simpa using hlimit) hrest (behind_observe hbehind hfirst)
    rw [decisions, decisionsOn_cons, ih, observe_limit]
    by_cases hb : b = a
    · -- One of the attempts in question, which uses up one of what is left.
      subst hb
      rw [if_pos rfl, count_observe_self, observe_fst hlimit, List.count_cons_self]
      by_cases hleft : l.count b.user b.second < l.limit.toNat
      · obtain ⟨left, hleft'⟩ : ∃ left, l.limit.toNat - l.count b.user b.second = left + 1 :=
          ⟨l.limit.toNat - l.count b.user b.second - 1, by omega⟩
        rw [if_pos hleft, Nat.sub_add_eq, hleft', Nat.add_sub_cancel, Nat.add_sub_add_right,
          Nat.add_min_add_right, List.replicate_succ, List.cons_append]
      · have hnone : l.limit.toNat - l.count b.user b.second = 0 := by omega
        simp [hleft, hnone, Nat.sub_add_eq, List.replicate_succ]
    · rw [if_neg hb, List.count_cons_of_ne hb]
      by_cases huser : b.user = a.user
      · -- The user has gone on to another second, so nothing in question is to come
        -- unless nothing was counted yet.
        have hne : b.second ≠ a.second := fun h => hb (by cases b; cases a; simp_all)
        have hforgot : (l.observe b.user b.second).2.count a.user a.second = 0 := by
          rw [huser]
          exact count_of_last_of_ne (last_observe_self l a.user b.second) hne
        by_cases hcounted : l.count a.user a.second = 0
        · rw [hforgot, hcounted]
        · have := count_eq_zero_of_passed hbehind hfirst huser hcounted hne
          simp [this]
      · -- Another user changes nothing for this one.
        have hsame : (l.observe b.user b.second).2.count a.user a.second =
            l.count a.user a.second := by
          unfold count
          rw [last_observe_of_ne (Ne.symm huser)]
        rw [hsame]

end IdealLimiter

theorem Ordered.steady {attempts : List Attempt} (h : Ordered attempts) :
    RateLimiter.Steady attempts := by
  refine h.imp fun hle => ?_
  have := Int64.le_iff_toInt_le.mp hle
  omega

namespace RateLimiter

/-- Of the attempts of one user at one second exactly the first ones up to the
    limit pass. -/
theorem decisionsOn_ordered {limit : UInt32} (hlimit : limit ≠ 0)
    (hbound : limit.toNat < 2 ^ 32 - 1) {attempts : List Attempt}
    (hrange : ∀ a ∈ attempts, Int64.minValue < a.second) (hordered : Ordered attempts)
    (a : Attempt) :
    decisionsOn a attempts ((ofLimit limit).decisions attempts) =
      List.replicate (min (attempts.count a) limit.toNat) .accept ++
      List.replicate (attempts.count a - limit.toNat) .throttle := by
  have hagrees := agrees_ofLimit limit attempts
  rw [hagrees.decisions_eq rfl hbound hrange hordered.steady]
  have hbehind : (IdealLimiter.ofLimit limit).Behind attempts := by
    intro user n second hlast
    simp [IdealLimiter.ofLimit] at hlast
  exact IdealLimiter.decisionsOn_ordered (l := .ofLimit limit) hlimit a hordered hbehind

end RateLimiter

end FlashSale
