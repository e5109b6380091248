import FlashSale.Proofs.RateLimit.Ordered
import Mathlib.Data.List.Dedup
import Mathlib.Data.List.Induction

/-! # Who is remembered

    The limiter sweeps only when the second is not the one of its last sweep.
    Still it remembers exactly those users whose last attempt is recent: since
    then nobody has made one that is more than a second later.  This holds
    wherever the clock goes.  If it never steps back, these are the users seen
    at the last second or the one before it. -/

namespace FlashSale

/-! ### Recent attempts -/

/-- The last attempt of the user was made at the second, and nobody has made
    one since then that is more than a second later. -/
def RecentAt (attempts : List Attempt) (user : UInt64) (second : Int64) : Prop :=
  ∃ before later, attempts = before ++ .mk user second :: later ∧
    ∀ a ∈ later, a.user ≠ user ∧ a.second.toInt ≤ second.toInt + 1

section

variable {attempts : List Attempt} {user : UInt64} {second : Int64}

theorem not_recentAt_nil : ¬RecentAt [] user second := by
  rintro ⟨before, later, h, -⟩
  simp at h

/-- One more attempt is recent itself, and decides on the others. -/
theorem recentAt_concat {a : Attempt} :
    RecentAt (attempts ++ [a]) user second ↔
      if user = a.user then second = a.second
      else RecentAt attempts user second ∧ a.second.toInt ≤ second.toInt + 1 := by
  constructor
  · rintro ⟨before, later, heq, hlater⟩
    cases later using List.reverseRecOn with
    | nil =>
      -- The recent attempt is the last one.
      obtain ⟨-, rfl⟩ : attempts = before ∧ a = .mk user second := by simpa using heq
      simp
    | append_singleton later b =>
      rw [← List.cons_append, ← List.append_assoc] at heq
      obtain ⟨rfl, hb⟩ := List.append_inj' heq rfl
      obtain rfl : a = b := by simpa using hb
      obtain ⟨hother, hclose⟩ := hlater a (by simp)
      rw [if_neg (Ne.symm hother)]
      exact ⟨⟨before, later, rfl, fun c hc => hlater c (by simp [hc])⟩, hclose⟩
  · intro h
    by_cases huser : user = a.user
    · rw [if_pos huser] at h
      subst huser h
      exact ⟨attempts, [], rfl, by simp⟩
    · rw [if_neg huser] at h
      obtain ⟨⟨before, later, rfl, hlater⟩, hclose⟩ := h
      refine ⟨before, later ++ [a], by simp, ?_⟩
      intro c hc
      rcases List.mem_append.mp hc with hc | hc
      · exact hlater c hc
      · obtain rfl : c = a := by simpa using hc
        exact ⟨Ne.symm huser, hclose⟩

/-- Whoever has made an attempt has made a last one. -/
theorem exists_last_of_mem {a : Attempt} (h : a ∈ attempts) :
    ∃ before second later, attempts = before ++ .mk a.user second :: later ∧
      ∀ b ∈ later, b.user ≠ a.user := by
  induction attempts using List.reverseRecOn with
  | nil => cases h
  | append_singleton attempts b ih =>
    by_cases huser : b.user = a.user
    · refine ⟨attempts, b.second, [], ?_, by simp⟩
      rw [← huser]
    · -- Not the one that is added, so one of the others.
      have hmem : a ∈ attempts := by
        rcases List.mem_append.mp h with h | h
        · exact h
        · obtain rfl : a = b := by simpa using h
          exact absurd rfl huser
      obtain ⟨before, second, later, rfl, hlater⟩ := ih hmem
      refine ⟨before, second, later ++ [b], by simp, ?_⟩
      intro c hc
      rcases List.mem_append.mp hc with hc | hc
      · exact hlater c hc
      · obtain rfl : c = b := by simpa using hc
        exact huser

/-- If the clock never steps back, a user's last attempt is recent exactly if
    one was made at the last second or the one before it. -/
theorem exists_recentAt_iff_of_ordered (hordered : Ordered attempts) {last : Attempt}
    (hlast : last ∈ attempts.getLast?) :
    (∃ second, RecentAt attempts user second) ↔
      ∃ a ∈ attempts, a.user = user ∧
        (a.second = last.second ∨ a.second.toInt + 1 = last.second.toInt) := by
  have hle : ∀ a ∈ attempts, a.second ≤ last.second := by
    obtain ⟨before, rfl⟩ := List.getLast?_eq_some_iff.mp hlast
    intro a ha
    rcases List.mem_append.mp ha with ha | ha
    · exact (List.pairwise_append.mp hordered).2.2 a ha last (by simp)
    · obtain rfl : a = last := by simpa using ha
      exact Int64.le_refl _
  constructor
  · rintro ⟨second, before, later, rfl, hlater⟩
    have hbehind := hle (.mk user second) (by simp)
    -- The last attempt is this one or comes after it.
    have hclose : last.second.toInt ≤ second.toInt + 1 := by
      rw [List.getLast?_append, List.getLast?_cons] at hlast
      cases hend : later.getLast? with
      | none =>
        obtain rfl : .mk user second = last := by simpa [hend] using hlast
        show second.toInt ≤ second.toInt + 1
        omega
      | some b =>
        obtain rfl : b = last := by simpa [hend] using hlast
        exact (hlater b (List.mem_of_getLast? hend)).2
    refine ⟨.mk user second, by simp, rfl, ?_⟩
    show second = last.second ∨ second.toInt + 1 = last.second.toInt
    rw [← Int64.toInt_inj]
    have hbehind : second.toInt ≤ last.second.toInt := Int64.le_iff_toInt_le.mp hbehind
    omega
  · rintro ⟨a, ha, rfl, hclose⟩
    have hclose : last.second.toInt ≤ a.second.toInt + 1 := by
      rw [← Int64.toInt_inj] at hclose
      omega
    obtain ⟨before, second, later, rfl, hlater⟩ := exists_last_of_mem ha
    -- The last attempt of the user is not made before this one.
    have hbehind : a.second ≤ second := by
      rcases List.mem_append.mp ha with hbefore | hbehind
      · exact (List.pairwise_append.mp hordered).2.2 a hbefore (.mk a.user second) (by simp)
      · rcases List.mem_cons.mp hbehind with heq | hmem
        · exact Int64.le_of_eq (congrArg Attempt.second heq)
        · exact absurd rfl (hlater a hmem)
    refine ⟨second, before, later, rfl, fun b hb => ⟨hlater b hb, ?_⟩⟩
    have hb : b.second.toInt ≤ last.second.toInt :=
      Int64.le_iff_toInt_le.mp (hle b (by simp [hb]))
    have hbehind := Int64.le_iff_toInt_le.mp hbehind
    omega

end

namespace RateLimiter

/-! ### Runs of a limiter -/

/-- The limiter after some attempts. -/
def after (l : RateLimiter) (attempts : List Attempt) : RateLimiter :=
  attempts.foldl (fun l a => (l.observe a.user a.second).2) l

/-- The users that have a tally. -/
def users (l : RateLimiter) : List UInt64 :=
  l.tallies.map Tally.user

theorem after_concat (l : RateLimiter) (attempts : List Attempt) (a : Attempt) :
    l.after (attempts ++ [a]) = ((l.after attempts).observe a.user a.second).2 :=
  List.foldl_concat _ _ _ _

theorem mem_users_iff {l : RateLimiter} {user : UInt64} :
    user ∈ l.users ↔ ∃ t, l.tally? user = some t := by
  rw [← Option.isSome_iff_exists, ← Option.ne_none_iff_isSome, Ne, tally?_eq_none_iff, users,
    List.mem_map]
  simp

/-- After some attempts, the limiter remembers what is recent. -/
structure Remembers (l : RateLimiter) (attempts : List Attempt) : Prop where
  distinct : l.Distinct
  /-- A sweep at the second of the last one would find nothing to drop. -/
  swept : ∀ user t, l.tally? user = some t → l.sweptAt.toInt - 1 ≤ t.second.toInt
  recent : ∀ user second, (∃ t, l.tally? user = some t ∧ t.second = second) ↔
    RecentAt attempts user second

variable {l : RateLimiter} {attempts : List Attempt}

theorem remembers_ofLimit (limit : UInt32) : (ofLimit limit).Remembers [] where
  distinct := distinct_ofLimit limit
  swept := by
    intro user t h
    simp [ofLimit, tally?] at h
  recent := by
    intro user second
    simp [ofLimit, tally?, not_recentAt_nil]

/-- Whether or not it is done, a sweep leaves what is no more than a second
    old. -/
theorem Remembers.tally?_sweep_iff (h : l.Remembers attempts) {now : Int64}
    (hnow : Int64.minValue < now) {user : UInt64} {t : Tally} :
    (l.sweep now).tally? user = some t ↔
      l.tally? user = some t ∧ now.toInt ≤ t.second.toInt + 1 := by
  rw [tally?_sweep h.distinct, Int64.le_iff_toInt_le, toInt_sub_one hnow]
  constructor
  · rintro ⟨hkept, hdone | hyoung⟩
    · have hswept := h.swept user t hkept
      rw [hdone] at hswept
      exact ⟨hkept, by omega⟩
    · exact ⟨hkept, by omega⟩
  · rintro ⟨hkept, hyoung⟩
    exact ⟨hkept, Or.inr (by omega)⟩

/-- One more attempt is remembered, and with it what is still recent. -/
theorem Remembers.observe (h : l.Remembers attempts) {a : Attempt}
    (ha : Int64.minValue < a.second) :
    (l.observe a.user a.second).2.Remembers (attempts ++ [a]) where
  distinct := distinct_observe h.distinct _ _
  swept := by
    intro user t ht
    rw [observe_sweptAt]
    by_cases huser : user = a.user
    · subst huser
      rw [tally?_observe_self] at ht
      obtain rfl := Option.some.inj ht
      rw [Tally.next_second]
      omega
    · rw [tally?_observe_of_ne huser, h.tally?_sweep_iff ha] at ht
      omega
  recent := by
    intro user second
    rw [recentAt_concat]
    by_cases huser : user = a.user
    · subst huser
      rw [if_pos rfl, tally?_observe_self]
      simp [eq_comm]
    · rw [if_neg huser, tally?_observe_of_ne huser, ← h.recent]
      simp only [h.tally?_sweep_iff ha]
      constructor
      · rintro ⟨t, ⟨hkept, hyoung⟩, rfl⟩
        exact ⟨⟨t, hkept, rfl⟩, hyoung⟩
      · rintro ⟨⟨t, hkept, rfl⟩, hyoung⟩
        exact ⟨t, ⟨hkept, hyoung⟩, rfl⟩

theorem remembers_after (limit : UInt32) (hrange : ∀ a ∈ attempts, Int64.minValue < a.second) :
    ((ofLimit limit).after attempts).Remembers attempts := by
  induction attempts using List.reverseRecOn with
  | nil => exact remembers_ofLimit limit
  | append_singleton attempts a ih =>
    rw [after_concat]
    have hbefore := ih fun b hb => hrange b (by simp [hb])
    exact hbefore.observe (hrange a (by simp))

/-! ### Exactly the recent users -/

/-- After any attempts exactly those users are remembered, each once, whose last
    attempt is recent.  If the clock has never stepped back, they are as many as
    there are users with an attempt at the last second or the one before it. -/
theorem tracks_recent (limit : UInt32) {attempts : List Attempt}
    (hrange : ∀ a ∈ attempts, Int64.minValue < a.second) :
    let l := (ofLimit limit).after attempts
    l.users.Nodup ∧ (∀ user, user ∈ l.users ↔ ∃ second, RecentAt attempts user second) ∧
    (Ordered attempts → ∀ last ∈ attempts.getLast?, l.tracked =
      ((attempts.filter fun a => a.second = last.second ∨
        a.second.toInt + 1 = last.second.toInt).map Attempt.user).dedup.length) := by
  intro l
  have hremembers := remembers_after limit hrange
  have hrecent : ∀ user, user ∈ l.users ↔ ∃ second, RecentAt attempts user second := by
    intro user
    rw [mem_users_iff]
    constructor
    · rintro ⟨t, ht⟩
      exact ⟨t.second, (hremembers.recent user t.second).mp ⟨t, ht, rfl⟩⟩
    · rintro ⟨second, h⟩
      obtain ⟨t, ht, -⟩ := (hremembers.recent user second).mpr h
      exact ⟨t, ht⟩
  refine ⟨hremembers.distinct, hrecent, fun hordered last hlast => ?_⟩
  -- Two lists without duplicates that have the same members are equally long.
  have hperm : l.users.Perm ((attempts.filter fun a => a.second = last.second ∨
      a.second.toInt + 1 = last.second.toInt).map Attempt.user).dedup := by
    refine (List.perm_ext_iff_of_nodup hremembers.distinct (List.nodup_dedup _)).mpr ?_
    intro user
    show user ∈ l.users ↔ _
    rw [hrecent, exists_recentAt_iff_of_ordered hordered hlast, List.mem_dedup, List.mem_map]
    simp only [List.mem_filter, decide_eq_true_eq]
    constructor
    · rintro ⟨a, ha, huser, hclose⟩
      exact ⟨a, ⟨ha, hclose⟩, huser⟩
    · rintro ⟨a, ⟨ha, hclose⟩, huser⟩
      exact ⟨a, ha, huser, hclose⟩
  rw [← hperm.length_eq]
  exact (List.length_map _).symm

/-- The clock steps back from second 12 to 11, where user 2 is still remembered
    and user 1 is not; with a clock that goes on, user 2 at second 11 and user 3
    at second 12 are two. -/
theorem tracks_recent_after_step_back :
    let back : List Attempt := [⟨1, 10⟩, ⟨2, 12⟩, ⟨3, 11⟩]
    let onward : List Attempt := [⟨1, 10⟩, ⟨2, 11⟩, ⟨2, 11⟩, ⟨3, 12⟩]
    (∀ a ∈ back, Int64.minValue < a.second) ∧
    (RecentAt back 2 12 ∧ 2 ∈ ((ofLimit 5).after back).users) ∧
    (1 ∉ ((ofLimit 5).after back).users ∧ ¬∃ second, RecentAt back 1 second) ∧
    (∀ a ∈ onward, Int64.minValue < a.second) ∧ Ordered onward ∧
    ((ofLimit 5).after onward).tracked = 2 := by
  intro back onward
  have hback : ∀ a ∈ back, Int64.minValue < a.second := by decide
  have honward : ∀ a ∈ onward, Int64.minValue < a.second := by decide
  have hordered : Ordered onward := by
    unfold Ordered
    decide
  obtain ⟨-, hrecent, -⟩ := tracks_recent 5 hback
  obtain ⟨-, -, hcount⟩ := tracks_recent 5 honward
  have hsecond : RecentAt back 2 12 := ⟨[⟨1, 10⟩], [⟨3, 11⟩], rfl, by decide⟩
  have hfirst : 1 ∉ ((ofLimit 5).after back).users := by decide +kernel
  refine ⟨hback, ⟨hsecond, (hrecent 2).mpr ⟨12, hsecond⟩⟩, ⟨hfirst, ?_⟩, honward, hordered, ?_⟩
  · rw [← hrecent]
    exact hfirst
  · rw [hcount hordered ⟨3, 12⟩ rfl]
    decide +kernel

end RateLimiter

end FlashSale
