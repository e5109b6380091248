import FlashSale.Proofs.Gateway.Run
import FlashSale.Proofs.Signature

/-! # The decision on a purchase

    A purchase is answered by the first of some rules that applies.  Those
    about the request come first: the product, the time, the user and the
    signature.  Then the attempt is counted, and only who may go on is told
    about the product.  Nothing but the limiter changes, and it changes only by
    this one attempt. -/

namespace FlashSale

open Text

/-! ### Rules -/

/-- The outcome of the first rule that applies. -/
inductive FirstOf {α : Type} : List (Prop × α) → α → Prop
  | here {p : Prop} {a : α} {rest : List (Prop × α)} (applies : p) : FirstOf ((p, a) :: rest) a
  | later {p : Prop} {a b : α} {rest : List (Prop × α)} (skipped : ¬p) (first : FirstOf rest b) :
    FirstOf ((p, a) :: rest) b

namespace Request

/-- The request names the product: the first value of the name is, but for white
    space around it, a number that is not zero. -/
def NamesProduct (r : Request) (id : UInt64) : Prop :=
  ∃ text, r.query.lookup "product_id" = some text ∧
    numeral? (trim text.toList) = some id.toNat ∧ id ≠ 0

/-- The request names the user: the first cookie of the name is a number, with
    nothing around it. -/
def NamesUser (r : Request) (user : UInt64) : Prop :=
  ∃ text, r.cookies.lookup "userId" = some text ∧ numeral? text.toList = some user.toNat

/-- The request carries the signature of the user. -/
def IsSignedBy (a : Authenticator) (r : Request) (user : UInt64) : Prop :=
  r.cookies.lookup "userAuthSign" = some (a.sign user)

/-- The rules about what a purchase has to say. -/
def readingRules (a : Authenticator) (r : Request) : List (Prop × Envelope) :=
  [(r.query.lookup "product_id" = none,
      .status .invalidRequest "invalid request: missing product_id"),
    (¬∃ id, r.NamesProduct id, .status .invalidRequest "invalid request: invalid product_id"),
    (r.time ≤ 0, .status .invalidRequest "invalid request: missing access time"),
    (¬∃ user, r.NamesUser user, .status .authFailed "invalid cookie: userId"),
    (r.cookies.lookup "userAuthSign" = none, .status .authFailed "invalid cookie: userAuthSign"),
    (¬∃ user, r.NamesUser user ∧ r.IsSignedBy a user,
      .status .authFailed "invalid user signature")]

/-- The purchase says all it has to, and its signature is that of the user. -/
structure IsAuthentic (a : Authenticator) (r : Request) (user : UInt64) : Prop where
  namesProduct : ∃ id, r.NamesProduct id
  time_pos : 0 < r.time
  namesUser : r.NamesUser user
  isSigned : r.IsSignedBy a user

end Request

namespace Gateway

/-- The request names a product that is served. -/
def Serves (g : Gateway) (r : Request) (p : Product) : Prop :=
  ∃ id, r.NamesProduct id ∧ g.catalogue.find? id = some p

/-- The rules about a purchase whose user is authenticated. -/
def decisionRules (g : Gateway) (r : Request) : List (Prop × Envelope) :=
  [(∃ user, r.NamesUser user ∧ (g.limiter.observe user r.time).1 = .throttle,
      .status .serviceBusy "service busy"),
    (¬∃ p, g.Serves r p, .status .notFoundProduct "product not found"),
    (∃ p, g.Serves r p ∧ p.status ≠ .normal, .status .activeSoldOut "product is sale out"),
    (∃ p, g.Serves r p ∧ r.time < p.startTime,
      .status .activeNotStarted "sec kill is not start"),
    (∃ p, g.Serves r p ∧ p.endTime < r.time,
      .status .activeAlreadyEnded "sec kill is already end"),
    (True, .status .ok "success")]

end Gateway

/-! ### Reading a purchase -/

namespace Request

variable {a : Authenticator} {r : Request}

theorem readProduct_eq_ok_iff {text : String} {id : UInt64} :
    readProduct text = .ok id ↔ numeral? (trim text.toList) = some id.toNat ∧ id ≠ 0 := by
  rw [← readUInt64_eq_ok_iff, readProduct]
  cases readUInt64 (trim text.toList) with
  | error fault => simp
  | ok n =>
    by_cases hn : n = 0
    · simp only [hn, if_true, reduceCtorEq, Except.ok.injEq, false_iff]
      rintro ⟨rfl, hne⟩
      exact hne rfl
    · simp only [hn, if_false, Except.ok.injEq]
      constructor
      · rintro rfl
        exact ⟨rfl, hn⟩
      · exact fun h => h.1

theorem namesProduct_iff {id : UInt64} : r.NamesProduct id ↔ r.product? = some (.ok id) := by
  simp only [NamesProduct, product?, Option.map_eq_some_iff, readProduct_eq_ok_iff]

theorem namesUser_iff {user : UInt64} : r.NamesUser user ↔ r.user = .ok user := by
  rw [user_eq_ok_iff]
  simp only [NamesUser, userNumber?, Option.bind_eq_some_iff]

/-- A request names one user at most. -/
theorem NamesUser.eq {user user' : UInt64} (h : r.NamesUser user) (h' : r.NamesUser user') :
    user = user' := by
  rw [namesUser_iff] at h h'
  exact Except.ok.inj (h.symm.trans h')

theorem NamesProduct.eq {id id' : UInt64} (h : r.NamesProduct id) (h' : r.NamesProduct id') :
    id = id' := by
  rw [namesProduct_iff] at h h'
  exact Except.ok.inj (Option.some.inj (h.symm.trans h'))

theorem eq_invalidUser {refusal : Refusal} (h : r.user = .error refusal) :
    refusal = .invalidUser := by
  unfold Request.user at h
  split at h
  · exact (Except.error.inj h).symm
  · split at h
    · exact (Except.error.inj h).symm
    · cases h

theorem eq_invalidProduct {text : String} {refusal : Refusal}
    (h : readProduct text = .error refusal) : refusal = .invalidProduct := by
  unfold readProduct at h
  split at h
  · exact (Except.error.inj h).symm
  · split at h
    · exact (Except.error.inj h).symm
    · cases h

/-- A purchase is read exactly if it is authentic. -/
theorem purchase_eq_ok_iff_isAuthentic {p : Purchase} :
    r.purchase a = .ok p ↔ r.NamesProduct p.product ∧ r.IsAuthentic a p.user := by
  have hsigned : r.checkSignature a p.user = .ok () ↔ r.IsSignedBy a p.user := by
    unfold checkSignature IsSignedBy
    cases r.cookies.lookup "userAuthSign" with
    | none => simp
    | some presented => simp [Authenticator.verify_iff]
  rw [purchase_eq_ok_iff, ← namesProduct_iff, ← namesUser_iff, hsigned]
  constructor
  · rintro ⟨hproduct, htime, huser, hsign⟩
    exact ⟨hproduct, ⟨_, hproduct⟩, htime, huser, hsign⟩
  · rintro ⟨hproduct, -, htime, huser, hsign⟩
    exact ⟨hproduct, htime, huser, hsign⟩

/-- Either a rule about reading decides on a purchase, or the purchase is read
    and none of them applies. -/
theorem purchase_decided (a : Authenticator) (r : Request) :
    (∃ refusal, r.purchase a = .error refusal ∧
      ∀ rest, FirstOf (r.readingRules a ++ rest) refusal.envelope) ∨
    ∃ p, r.purchase a = .ok p ∧
      ∀ rest answer, FirstOf rest answer → FirstOf (r.readingRules a ++ rest) answer := by
  -- Rule by rule: it decides, or the next one is asked.
  rcases hgiven : r.query.lookup "product_id" with _ | text
  · have hread : r.purchase a = .error .missingProduct := by
      simp [purchase, product?, hgiven]
    exact .inl ⟨_, hread, fun rest => .here hgiven⟩
  have hproduct : r.product? = some (readProduct text) := by simp [product?, hgiven]
  have hgiven : ¬r.query.lookup "product_id" = none := by simp [hgiven]
  rcases hid : readProduct text with refusal | id
  · obtain rfl := eq_invalidProduct hid
    have hread : r.purchase a = .error .invalidProduct := by
      simp [purchase, hproduct, hid]
    have hinvalid : ¬∃ id, r.NamesProduct id := by
      simp [namesProduct_iff, hproduct, hid]
    exact .inl ⟨_, hread, fun rest => .later hgiven (.here hinvalid)⟩
  have hnamesProduct : r.NamesProduct id := by rw [namesProduct_iff, hproduct, hid]
  have hvalid : ¬¬∃ id, r.NamesProduct id := not_not.mpr ⟨id, hnamesProduct⟩
  by_cases htime : r.time ≤ 0
  · have hread : r.purchase a = .error .missingTime := by
      simp [purchase, hproduct, hid, htime]
    exact .inl ⟨_, hread, fun rest => .later hgiven (.later hvalid (.here htime))⟩
  rcases huser : r.user with refusal | user
  · obtain rfl := eq_invalidUser huser
    have hread : r.purchase a = .error .invalidUser := by
      simp [purchase, hproduct, hid, htime, huser]
    have hnobody : ¬∃ user, r.NamesUser user := by simp [namesUser_iff, huser]
    exact .inl ⟨_, hread, fun rest => .later hgiven (.later hvalid (.later htime (.here hnobody)))⟩
  have hnamesUser : r.NamesUser user := namesUser_iff.mpr huser
  have hsomebody : ¬¬∃ user, r.NamesUser user := not_not.mpr ⟨user, hnamesUser⟩
  rcases hsign : r.cookies.lookup "userAuthSign" with _ | presented
  · have hread : r.purchase a = .error .missingSignature := by
      simp [purchase, hproduct, hid, htime, huser, checkSignature, hsign, Except.map]
    exact .inl ⟨_, hread, fun rest =>
      .later hgiven (.later hvalid (.later htime (.later hsomebody (.here hsign))))⟩
  have hgivenSign : ¬r.cookies.lookup "userAuthSign" = none := by simp [hsign]
  by_cases hsame : presented = a.sign user
  · have hsigned : r.IsSignedBy a user := by rw [IsSignedBy, hsign, hsame]
    have hread : r.purchase a = .ok { product := id, user } :=
      purchase_eq_ok_iff_isAuthentic.mpr
        ⟨hnamesProduct, ⟨id, hnamesProduct⟩, Int64.not_le.mp htime, hnamesUser, hsigned⟩
    have hright : ¬¬∃ user, r.NamesUser user ∧ r.IsSignedBy a user :=
      not_not.mpr ⟨user, hnamesUser, hsigned⟩
    exact .inr ⟨_, hread, fun rest answer h =>
      .later hgiven (.later hvalid (.later htime (.later hsomebody (.later hgivenSign
        (.later hright h)))))⟩
  · have hread : r.purchase a = .error .wrongSignature := by
      simp [purchase, hproduct, hid, htime, huser, checkSignature, hsign, Authenticator.verify_iff,
        hsame, Except.map]
    have hwrong : ¬∃ user, r.NamesUser user ∧ r.IsSignedBy a user := by
      rintro ⟨user', huser', hsigned⟩
      obtain rfl := hnamesUser.eq huser'
      exact hsame (Option.some.inj (hsign.symm.trans hsigned))
    exact .inl ⟨_, hread, fun rest =>
      .later hgiven (.later hvalid (.later htime (.later hsomebody (.later hgivenSign
        (.here hwrong)))))⟩

end Request

/-! ### Deciding on it -/

namespace Gateway

variable {g : Gateway} {r : Request} {p : Purchase}

/-- What is told about the product is the first rule about it that applies. -/
theorem verdict_decided (hproduct : r.NamesProduct p.product) :
    FirstOf ((g.decisionRules r).tail) (verdict g.catalogue p.product r.time) := by
  rcases hfind : g.catalogue.find? p.product with _ | q
  · have hnone : ¬∃ q, g.Serves r q := by
      rintro ⟨q, id, hid, hq⟩
      obtain rfl := hproduct.eq hid
      rw [hfind] at hq
      cases hq
    have hverdict : verdict g.catalogue p.product r.time = Refusal.unknownProduct.envelope := by
      rw [verdict, hfind]
    rw [hverdict]
    exact .here hnone
  -- Only this product can be meant by the rules.
  have hserves {q' : Product} : g.Serves r q' ↔ q' = q := by
    constructor
    · rintro ⟨id, hid, hq'⟩
      obtain rfl := hproduct.eq hid
      exact Option.some.inj (hq'.symm.trans hfind)
    · rintro rfl
      exact ⟨_, hproduct, hfind⟩
  have hverdict : verdict g.catalogue p.product r.time =
      .status (q.verdictAt r.time).code (q.verdictAt r.time).status := by
    rw [verdict, hfind]
  simp only [decisionRules, List.tail_cons, hserves, exists_eq_left, exists_eq]
  rw [hverdict, Product.verdictAt]
  refine .later (not_not.mpr trivial) ?_
  by_cases hstatus : q.status ≠ .normal
  · have hsoldOut : q.status.isSoldOut = true := by
      cases hq : q.status with
      | normal => exact absurd hq hstatus
      | soldOut => rfl
      | forceSoldOut => rfl
    rw [if_pos hsoldOut]
    exact .here hstatus
  have hsoldOut : ¬q.status.isSoldOut = true := by
    rw [not_ne_iff.mp hstatus]
    decide
  rw [if_neg hsoldOut]
  refine .later hstatus ?_
  by_cases hearly : r.time < q.startTime
  · rw [if_pos hearly]
    exact .here hearly
  rw [if_neg hearly]
  refine .later hearly ?_
  by_cases hlate : q.endTime < r.time
  · rw [if_pos hlate]
    exact .here hlate
  · rw [if_neg hlate]
    exact .later hlate (.here trivial)

/-- A purchase that is not read changes nothing. -/
theorem handle_of_error {refusal : Refusal} (hkind : r.kind = .purchase)
    (h : r.purchase g.authenticator = .error refusal) : g.handle r = (refusal.envelope, g) := by
  rw [handle, hkind]
  simp only [purchase, h]

/-- A purchase that is read is counted, and then decided on. -/
theorem handle_of_ok (hkind : r.kind = .purchase) (h : r.purchase g.authenticator = .ok p) :
    (g.handle r).2 = { g with limiter := (g.limiter.observe p.user r.time).2 } ∧
      FirstOf (g.decisionRules r) (g.handle r).1 := by
  obtain ⟨hproduct, hauthentic⟩ := Request.purchase_eq_ok_iff_isAuthentic.mp h
  have huser := hauthentic.namesUser
  rw [handle, hkind]
  simp only [purchase, h]
  refine ⟨trivial, ?_⟩
  cases hdecision : (g.limiter.observe p.user r.time).1 with
  | throttle => exact .here ⟨p.user, huser, hdecision⟩
  | accept =>
    have hcounted :
        ¬∃ user, r.NamesUser user ∧ (g.limiter.observe user r.time).1 = .throttle := by
      rintro ⟨user, hnames, hthrottle⟩
      obtain rfl := huser.eq hnames
      rw [hdecision] at hthrottle
      cases hthrottle
    exact .later hcounted (verdict_decided hproduct)

end Gateway

/-! ### The decision -/

theorem FirstOf.exists_mem {α : Type} {rules : List (Prop × α)} {a : α} (h : FirstOf rules a) :
    ∃ p, (p, a) ∈ rules := by
  induction h with
  | here => exact ⟨_, List.mem_cons_self⟩
  | later _ _ ih =>
    obtain ⟨p, hp⟩ := ih
    exact ⟨p, List.mem_cons_of_mem _ hp⟩

namespace Gateway

/-- No rule has data in its answer, or one of the codes that are kept for
    later. -/
theorem answer_of_rules {g : Gateway} {r : Request} {e : Envelope}
    (h : FirstOf (r.readingRules g.authenticator ++ g.decisionRules r) e) :
    e.data? = none ∧ e.code ≠ .processTimeout ∧ e.code ≠ .clientClosed := by
  have hrules : ∀ rule ∈ r.readingRules g.authenticator ++ g.decisionRules r,
      rule.2.data? = none ∧ rule.2.code ≠ .processTimeout ∧ rule.2.code ≠ .clientClosed := by
    simp [Request.readingRules, decisionRules, Envelope.data?, Envelope.code]
  obtain ⟨p, hp⟩ := h.exists_mem
  exact hrules _ hp

/-- A purchase is answered by the first rule that applies.  Its attempt is
    counted exactly if it is authentic; nothing else ever changes. -/
theorem admission_decided {g : Gateway} {r : Request} (hkind : r.kind = .purchase) :
    FirstOf (r.readingRules g.authenticator ++ g.decisionRules r) (g.handle r).1 ∧
    (∀ user, r.IsAuthentic g.authenticator user →
      (g.handle r).2 = { g with limiter := (g.limiter.observe user r.time).2 }) ∧
    ((∀ user, ¬r.IsAuthentic g.authenticator user) → (g.handle r).2 = g) ∧
    (g.handle r).2.catalogue = g.catalogue ∧
    (g.handle r).1.data? = none ∧ (g.handle r).1.code ≠ .processTimeout ∧
    (g.handle r).1.code ≠ .clientClosed := by
  rcases Request.purchase_decided g.authenticator r with
    ⟨refusal, hread, hrules⟩ | ⟨p, hread, hrules⟩
  · have hhandle := handle_of_error hkind hread
    have hnobody : ∀ user, ¬r.IsAuthentic g.authenticator user := by
      intro user hauthentic
      obtain ⟨id, hid⟩ := hauthentic.namesProduct
      have hok : r.purchase g.authenticator = .ok { product := id, user } :=
        Request.purchase_eq_ok_iff_isAuthentic.mpr ⟨hid, hauthentic⟩
      rw [hread] at hok
      cases hok
    have hfirst := hrules (g.decisionRules r)
    rw [hhandle]
    exact ⟨hfirst, fun user h => absurd h (hnobody user), fun _ => rfl, rfl, answer_of_rules hfirst⟩
  · obtain ⟨hafter, hdecided⟩ := handle_of_ok hkind hread
    obtain ⟨-, hauthentic⟩ := Request.purchase_eq_ok_iff_isAuthentic.mp hread
    have hfirst := hrules _ _ hdecided
    refine ⟨hfirst, fun user h => ?_, fun h => absurd hauthentic (h p.user), ?_,
      answer_of_rules hfirst⟩
    · obtain rfl := hauthentic.namesUser.eq h.namesUser
      exact hafter
    · rw [hafter]
      rfl

/-- Product 7 is sold out before its sale begins.  User 7 spells both numbers
    freely, is counted, and is told the former. -/
theorem admission_decided_sold_out :
    let a : Authenticator := { secret := "k", scheme := .md5 }
    let product : Product :=
      { id := 7, startTime := 10, endTime := 20, status := .soldOut, count := 0, left := 0 }
    let g : Gateway :=
      { authenticator := a, limiter := .ofLimit 1
        watcher := { key := "/k", maxRetries := 1, next := 2
                     catalogue := { revision := 1, products := [product] } } }
    let r : Request :=
      { kind := .purchase, query := [("product_id", "\u3000+07 "), ("product_id", "8")]
        cookies := [("userId", "007"), ("userAuthSign", a.sign 7)], time := 5, id := .ofNat 0 }
    r.kind = .purchase ∧
      FirstOf (r.readingRules a ++ g.decisionRules r)
        (.status .activeSoldOut "product is sale out") ∧
      r.IsAuthentic a 7 ∧ (g.handle r).2 = { g with limiter := (g.limiter.observe 7 5).2 } := by
  intro a product g r
  have hkind : r.kind = .purchase := rfl
  have hanswer : (g.handle r).1 = .status .activeSoldOut "product is sale out" := by
    decide +kernel
  have hread : r.purchase a = .ok { product := 7, user := 7 } := by decide +kernel
  obtain ⟨-, hauthentic⟩ := Request.purchase_eq_ok_iff_isAuthentic.mp hread
  obtain ⟨hdecided, hcounted, -⟩ := admission_decided hkind
  rw [hanswer] at hdecided
  exact ⟨hkind, hdecided, hauthentic, hcounted 7 hauthentic⟩

end Gateway

end FlashSale
