import FlashSale.Proofs.Gateway.Launch
import FlashSale.Proofs.Gateway.Run
import FlashSale.Proofs.RateLimit.Ordered

/-! # The cap on attempts

    Whoever asks more often in a second than the settings allow is told to
    come back later, and nobody else is.  The answers to the attempts of a run
    are the decisions of the limiter on them; what happens in between, to the
    catalogue or to requests that are refused, takes no part in it. -/

namespace FlashSale

namespace Gateway

/-! ### Answers and decisions -/

@[simp] theorem attempts_request (a : Authenticator) (r : Request) (rest : List GatewayEvent) :
    attempts a (.request r :: rest) = (r.attempt? a).toList ++ attempts a rest := by
  unfold attempts requests
  cases h : r.attempt? a <;> simp [h]

@[simp] theorem attempts_watcher (a : Authenticator) (o : Occurrence) (rest : List GatewayEvent) :
    attempts a (.watcher o :: rest) = attempts a rest := by
  simp [attempts, requests]

/-- The answers to the attempts of a user at a second tell what the limiter
    decided on them. -/
theorem busy_answers_eq_decisions (g : Gateway) (events : List GatewayEvent) (user : UInt64)
    (second : Int64) :
    (((g.answers events).filter fun p => p.1.isAttempt g.authenticator user second).map
      fun p => decide (p.2.code = .serviceBusy)) =
    (decisionsOn { user, second } (attempts g.authenticator events)
      (g.limiter.decisions (attempts g.authenticator events))).map (· == .throttle) := by
  induction events generalizing g with
  | nil => simp [answers, attempts, requests]
  | cons event rest ih =>
    cases event with
    | watcher o =>
      rw [answers, attempts_watcher]
      exact ih (g.observe o)
    | request r =>
      rw [answers, attempts_request, List.filter_cons]
      -- Only an attempt takes a step of the limiter, and it takes exactly one.
      cases h : r.attempt? g.authenticator with
      | none =>
        have hno : r.isAttempt g.authenticator user second = false := by
          rw [Bool.eq_false_iff, ne_eq, Request.isAttempt_iff, h]
          simp
        simpa [hno, handle_of_attempt?_eq_none h] using ih g
      | some t =>
        have ih := ih (g.handle r).2
        rw [handle_of_attempt?_eq_some h] at ih ⊢
        simp only [Option.toList_some, List.singleton_append, RateLimiter.decisions,
          decisionsOn_cons]
        by_cases ht : t = { user, second }
        · have hyes : r.isAttempt g.authenticator user second = true := by
            rw [Request.isAttempt_iff, h, ht]
          have hbusy : decide ((g.handle r).1.code = .serviceBusy) =
              ((g.limiter.observe t.user t.second).1 == .throttle) := by
            rw [Bool.eq_iff_iff, decide_eq_true_eq, beq_iff_eq, busy_iff_throttle h]
          rw [if_pos hyes, if_pos ht, List.map_cons, List.map_cons, ih, hbusy]
        · have hno : ¬ r.isAttempt g.authenticator user second = true := by
            rw [Request.isAttempt_iff, h]
            exact fun heq => ht (Option.some.inj heq)
          rw [if_neg hno, if_neg ht, ih]

/-! ### The cap -/

/-- If the requests that pass come in the order of their seconds, so do the
    attempts. -/
theorem ordered_attempts {a : Authenticator} {events : List GatewayEvent}
    (h : ((requests events).filter (·.passes a)).Pairwise
      fun earlier later => earlier.time ≤ later.time) : Ordered (attempts a events) := by
  have hsame : attempts a events =
      ((requests events).filter (·.passes a)).filterMap (Request.attempt? a) := by
    unfold attempts
    rw [List.filterMap_filter]
    congr 1
    funext r
    rw [Request.passes_eq_isSome]
    cases r.attempt? a <;> rfl
  rw [hsame]
  refine h.filterMap _ fun r r' hle t ht t' ht' => ?_
  rw [← (Request.attempt?_eq_some_iff.mp ht).2.1, ← (Request.attempt?_eq_some_iff.mp ht').2.1]
  exact hle

theorem minValue_lt_of_mem_attempts {a : Authenticator} {events : List GatewayEvent}
    {t : Attempt} (h : t ∈ attempts a events) : Int64.minValue < t.second := by
  obtain ⟨r, -, ht⟩ := List.mem_filterMap.mp h
  have := Request.time_pos_of_attempt? ht
  rw [Int64.lt_iff_toInt_lt] at this ⊢
  exact Int.lt_trans (by decide) this

/-- In every run whose attempts come in the order of their seconds, of the
    attempts of a user at a second the first ones up to the limit are not told
    to come back later, and all others are. -/
theorem answers_capped {get : String → Except StoreError Fetched} {s : Settings} {g : Gateway}
    (hlaunch : launch (m := Id) get s = .ok g) (hlimit : s.accessLimit.toNat < 2 ^ 32 - 1)
    {events : List GatewayEvent}
    (hclock : ((requests events).filter (·.passes s.authenticator)).Pairwise
      fun earlier later => earlier.time ≤ later.time)
    (user : UInt64) (second : Int64) :
    let replies := (g.answers events).filter fun p =>
      p.1.isAttempt s.authenticator user second
    (replies.map fun p => decide (p.2.code = .serviceBusy)) =
      List.replicate (min replies.length s.accessLimit.toNat) false ++
      List.replicate (replies.length - s.accessLimit.toNat) true := by
  intro replies
  obtain ⟨hcheck, f, -, rfl⟩ := launch_eq_ok hlaunch
  have hflags : (replies.map fun p => decide (p.2.code = .serviceBusy)) =
      (decisionsOn { user, second } (attempts s.authenticator events)
        ((RateLimiter.ofLimit s.accessLimit).decisions
          (attempts s.authenticator events))).map (· == .throttle) :=
    busy_answers_eq_decisions (ofFetched s s.authenticator f) events user second
  have hdecisions := RateLimiter.decisionsOn_ordered
    (Settings.check_eq_ok_iff.mp hcheck).2.2.2.1 hlimit
    (fun t ht => minValue_lt_of_mem_attempts ht) (ordered_attempts hclock) { user, second }
  rw [hdecisions, List.map_append, List.map_replicate, List.map_replicate] at hflags
  -- Equal lists have equal lengths, so there is one answer for each attempt.
  have hcount : replies.length =
      (attempts s.authenticator events).count { user, second } := by
    have hlength := congrArg List.length hflags
    simp only [List.length_map, List.length_append, List.length_replicate] at hlength
    omega
  rw [hflags, hcount]
  rfl

/-- A purchase whose cookie spells the user in some way and whose signature is
    right. -/
def signedPurchase (a : Authenticator) (spelled : String) (user : UInt64) (time : Int64) :
    Request :=
  { kind := .purchase
    query := [("product_id", "1")]
    cookies := [("userId", spelled), ("userAuthSign", a.sign user)]
    time
    id := .ofNat 0 }

/-- User 7 asks three times in one second where two times are allowed, each
    time spelled differently, and the third time is one too many. -/
theorem answers_capped_three_spellings :
    let s : Settings := { secret := "k", scheme := .md5, accessLimit := 2 }
    let f : Fetched := { kv := none, revision := 2 }
    let g := ofFetched s s.authenticator f
    let purchase := signedPurchase s.authenticator
    let events : List GatewayEvent :=
      [.request (purchase "7" 7 5), .watcher (.subscribed (.ok ())),
        .request (purchase "007" 7 5), .request (purchase "8" 8 5),
        .watcher (.received (.ok (.delete "/seckill/product" 3))), .request (purchase "+7" 7 5)]
    launch (m := Id) (fun _ => .ok f) s = .ok g ∧ s.accessLimit.toNat < 2 ^ 32 - 1 ∧
    ((requests events).filter (·.passes s.authenticator)).Pairwise
      (fun earlier later => earlier.time ≤ later.time) ∧
    (((g.answers events).filter fun p => p.1.isAttempt s.authenticator 7 5).map
      fun p => decide (p.2.code = .serviceBusy)) = [false, false, true] := by
  intro s f g purchase events
  have hlaunch : launch (m := Id) (fun _ => .ok f) s = .ok g := by
    have hcheck : s.check = .ok () := by decide +kernel
    rw [launch_of_check_ok hcheck]
    rfl
  have hclock : ((requests events).filter (·.passes s.authenticator)).Pairwise
      (fun earlier later => earlier.time ≤ later.time) :=
    List.Pairwise.filter _ (by decide +kernel)
  have hlength : ((g.answers events).filter fun p =>
      p.1.isAttempt s.authenticator 7 5).length = 3 := by decide +kernel
  have hcapped := answers_capped hlaunch (by decide) hclock 7 5
  simp only [hlength] at hcapped
  exact ⟨hlaunch, by decide, hclock, hcapped⟩

end Gateway

end FlashSale
