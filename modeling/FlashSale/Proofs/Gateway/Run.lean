import FlashSale.Gateway.Launch
import FlashSale.Proofs.RateLimit.Tallies
import FlashSale.Proofs.Text.Decimal

/-! # Runs of a gateway

    In a run requests are answered and things happen to the watcher, in any
    order.  A purchase whose product and time can be read and whose user is
    authenticated is an attempt; an attempt takes one step of the limiter, and
    nothing else does. -/

namespace FlashSale

open Text

/-! ### Requests that are counted -/

namespace Request

/-- Is it a purchase that can be read and whose user is authenticated? -/
def passes (a : Authenticator) (r : Request) : Bool :=
  r.kind == .purchase && (r.purchase a).isOk

/-- The number that the cookie of the user spells. -/
def userNumber? (r : Request) : Option Nat :=
  (r.cookies.lookup "userId").bind fun text => numeral? text.toList

/-- Is it an attempt of a user at a second? -/
def isAttempt (a : Authenticator) (user : UInt64) (second : Int64) (r : Request) : Bool :=
  r.passes a && r.userNumber? == some user.toNat && r.time == second

/-- The attempt that a request is for the limiter. -/
def attempt? (a : Authenticator) (r : Request) : Option Attempt :=
  match r.kind with
  | .info => none
  | .purchase =>
    match r.purchase a with
    | .error _ => none
    | .ok p => some { user := p.user, second := r.time }

theorem user_eq_ok_iff {r : Request} {user : UInt64} :
    r.user = .ok user ↔ r.userNumber? = some user.toNat := by
  unfold Request.user userNumber?
  cases r.cookies.lookup "userId" with
  | none => simp
  | some text =>
    simp only [Option.bind_some, ← readUInt64_eq_ok_iff]
    cases readUInt64 text.toList with
    | error fault => simp
    | ok n => simp

theorem purchase_eq_ok_iff {a : Authenticator} {r : Request} {p : Purchase} :
    r.purchase a = .ok p ↔
      r.product? = some (.ok p.product) ∧ 0 < r.time ∧ r.user = .ok p.user ∧
        r.checkSignature a p.user = .ok () := by
  unfold Request.purchase
  cases hproduct : r.product? with
  | none => simp
  | some read =>
    cases read with
    | error refusal => simp
    | ok product =>
      by_cases htime : r.time ≤ 0
      · simp [htime, Int64.not_lt.mpr htime]
      · cases huser : r.user with
        | error refusal => simp [htime]
        | ok user =>
          simp only [htime, if_false, Int64.not_le.mp htime, true_and, Option.some.injEq,
            Except.ok.injEq]
          -- Everything was read; the signature decides.
          cases hsign : r.checkSignature a user with
          | error refusal =>
            constructor
            · intro h
              cases h
            · rintro ⟨-, rfl, h⟩
              simp [hsign] at h
          | ok =>
            constructor
            · intro h
              obtain rfl := Except.ok.inj h
              exact ⟨rfl, rfl, hsign⟩
            · rintro ⟨rfl, rfl, -⟩
              rfl

theorem attempt?_eq_some_iff {a : Authenticator} {r : Request} {t : Attempt} :
    r.attempt? a = some t ↔
      r.kind = .purchase ∧ r.time = t.second ∧ ∃ p, r.purchase a = .ok p ∧ p.user = t.user := by
  unfold attempt?
  cases hkind : r.kind with
  | info => simp
  | purchase =>
    cases hp : r.purchase a with
    | error refusal => simp
    | ok p =>
      cases t with
      | mk user second => simp [and_comm]

/-- An attempt is what the limiter counts for the number in the cookie. -/
theorem isAttempt_iff {a : Authenticator} {r : Request} {user : UInt64} {second : Int64} :
    r.isAttempt a user second = true ↔ r.attempt? a = some { user, second } := by
  rw [attempt?_eq_some_iff]
  simp only [isAttempt, passes, Bool.and_eq_true, beq_iff_eq]
  constructor
  · rintro ⟨⟨⟨hkind, hok⟩, huser⟩, htime⟩
    refine ⟨hkind, htime, ?_⟩
    cases hp : r.purchase a with
    | error refusal =>
      rw [hp] at hok
      cases hok
    | ok p =>
      have hread := (purchase_eq_ok_iff.mp hp).2.2.1
      rw [user_eq_ok_iff.mpr huser] at hread
      exact ⟨p, rfl, (Except.ok.inj hread).symm⟩
  · rintro ⟨hkind, htime, p, hp, huser⟩
    have hread := (purchase_eq_ok_iff.mp hp).2.2.1
    rw [huser, user_eq_ok_iff] at hread
    exact ⟨⟨⟨hkind, by rw [hp]; rfl⟩, hread⟩, htime⟩

theorem passes_eq_isSome (a : Authenticator) (r : Request) :
    r.passes a = (r.attempt? a).isSome := by
  unfold passes attempt?
  cases r.kind with
  | info => rfl
  | purchase => cases r.purchase a <;> rfl

theorem time_pos_of_attempt? {a : Authenticator} {r : Request} {t : Attempt}
    (h : r.attempt? a = some t) : 0 < t.second := by
  obtain ⟨-, htime, p, hp, -⟩ := attempt?_eq_some_iff.mp h
  rw [← htime]
  exact (purchase_eq_ok_iff.mp hp).2.1

end Request

/-! ### Runs -/

/-- What happens in a run. -/
inductive GatewayEvent where
  /-- A request is answered. -/
  | request (r : Request)
  /-- Something happens to the watcher. -/
  | watcher (o : Occurrence)

/-- The requests of a run, in the order in which they are answered. -/
def requests (events : List GatewayEvent) : List Request :=
  events.filterMap fun
    | .request r => some r
    | .watcher _ => none

namespace Gateway

/-- The requests of a run with their answers, in the order in which they are
    answered. -/
def answers (g : Gateway) : List GatewayEvent → List (Request × Envelope)
  | [] => []
  | .request r :: rest => (r, (g.handle r).1) :: (g.handle r).2.answers rest
  | .watcher o :: rest => (g.observe o).answers rest

/-- The attempts among the requests of a run. -/
def attempts (a : Authenticator) (events : List GatewayEvent) : List Attempt :=
  (requests events).filterMap (Request.attempt? a)

/-! ### One request -/

/-- Who may go on is told about the product. -/
theorem verdict_code (c : Catalogue) (product : UInt64) (time : Int64) :
    (verdict c product time).code ∈
      [.notFoundProduct, .activeSoldOut, .activeNotStarted, .activeAlreadyEnded, .ok] := by
  unfold verdict
  cases c.find? product with
  | none => simp [Refusal.envelope, Refusal.code, Envelope.code]
  | some p =>
    simp only [Envelope.code, Product.verdictAt]
    split
    · simp [Verdict.soldOut]
    · split
      · simp [Verdict.notStarted]
      · split <;> simp [Verdict.ended, Verdict.running]

/-- What is no attempt leaves the gateway as it is. -/
theorem handle_of_attempt?_eq_none {g : Gateway} {r : Request}
    (h : r.attempt? g.authenticator = none) : (g.handle r).2 = g := by
  unfold handle
  unfold Request.attempt? at h
  cases hkind : r.kind with
  | info => rfl
  | purchase =>
    cases hp : r.purchase g.authenticator with
    | error refusal => simp [Gateway.purchase, hp]
    | ok p => simp [hkind, hp] at h

/-- An attempt takes one step of the limiter. -/
theorem handle_of_attempt?_eq_some {g : Gateway} {r : Request} {t : Attempt}
    (h : r.attempt? g.authenticator = some t) :
    (g.handle r).2 = { g with limiter := (g.limiter.observe t.user t.second).2 } := by
  obtain ⟨hkind, htime, p, hp, huser⟩ := Request.attempt?_eq_some_iff.mp h
  simp [handle, hkind, Gateway.purchase, hp, htime, huser]

/-- An attempt is told to come back later exactly if the limiter throttles
    it. -/
theorem busy_iff_throttle {g : Gateway} {r : Request} {t : Attempt}
    (h : r.attempt? g.authenticator = some t) :
    (g.handle r).1.code = .serviceBusy ↔
      (g.limiter.observe t.user t.second).1 = .throttle := by
  obtain ⟨hkind, htime, p, hp, huser⟩ := Request.attempt?_eq_some_iff.mp h
  simp only [handle, hkind, Gateway.purchase, hp, htime, huser]
  cases (g.limiter.observe t.user t.second).1 with
  | accept =>
    have hcode := verdict_code g.catalogue p.product t.second
    simp only [reduceCtorEq, iff_false]
    intro hbusy
    rw [hbusy] at hcode
    simp at hcode
  | throttle => simp [Refusal.envelope, Refusal.code, Envelope.code]

end Gateway

end FlashSale
