import FlashSale.Proofs.Catalogue.Listing
import FlashSale.Proofs.Gateway.Admission

/-! # What clients are told about products

    A client may ask for all products, ask for one of them, or try to buy one.
    The three answers are made in different ways, but they tell the same: the
    list has one entry for each id, in the order of the ids, and whoever asks
    for one product or tries to buy it is told what its entry in the list
    says. -/

namespace FlashSale

/-! ### The entries of a list -/

/-- The answer to a purchase tells of a product what its entry in the list says,
    or that it is unknown if it has none. -/
structure Envelope.Matches (answer : Envelope) (offers : List Offer) (id : UInt64) : Prop where
  unknown : answer.code = .notFoundProduct ↔ ∀ o ∈ offers, o.productId ≠ id
  admitted : answer.code = .ok ↔ ∃ o ∈ offers, o.productId = id ∧ o.start = true
  early : answer.code = .activeNotStarted ↔
    ∃ o ∈ offers, o.productId = id ∧ o.start = false ∧ o.finished = false
  finished : answer.code = .activeSoldOut ∨ answer.code = .activeAlreadyEnded ↔
    ∃ o ∈ offers, o.productId = id ∧ o.start = false ∧ o.finished = true
  message : ∀ o ∈ offers, o.productId = id → answer.message = o.status

namespace Catalogue

/-- What clients are told about all products at a second. -/
def offersAt (c : Catalogue) (time : Int64) : List Offer :=
  c.products.map fun p => p.offerAt time

variable {c : Catalogue} {time : Int64} {id : UInt64}

theorem map_productId_offersAt (c : Catalogue) (time : Int64) :
    (c.offersAt time).map Offer.productId = c.products.map Product.id := by
  rw [offersAt, List.map_map]
  rfl

/-- The entry of an id is the offer of the product that is found under it. -/
theorem mem_offersAt_iff (h : Ascending c.products) {o : Offer} :
    o ∈ c.offersAt time ∧ o.productId = id ↔
      ∃ p, c.find? id = some p ∧ p.offerAt time = o := by
  rw [offersAt, List.mem_map]
  constructor
  · rintro ⟨⟨p, hp, rfl⟩, hid⟩
    exact ⟨p, h.find?_eq_some_iff.mpr ⟨hp, hid⟩, rfl⟩
  · rintro ⟨p, hfind, rfl⟩
    obtain ⟨hp, hid⟩ := h.find?_eq_some_iff.mp hfind
    exact ⟨⟨p, hp, rfl⟩, hid⟩

/-- So what holds of some entry of the id holds of this offer. -/
theorem exists_mem_offersAt_iff (h : Ascending c.products) {property : Offer → Prop} :
    (∃ o ∈ c.offersAt time, o.productId = id ∧ property o) ↔
      ∃ p, c.find? id = some p ∧ property (p.offerAt time) := by
  constructor
  · rintro ⟨o, ho, hid, hproperty⟩
    obtain ⟨p, hp, rfl⟩ := (mem_offersAt_iff h).mp ⟨ho, hid⟩
    exact ⟨p, hp, hproperty⟩
  · rintro ⟨p, hp, hproperty⟩
    obtain ⟨ho, hid⟩ := (mem_offersAt_iff h).mpr ⟨p, hp, rfl⟩
    exact ⟨_, ho, hid, hproperty⟩

/-- There is no entry exactly if nothing is found. -/
theorem forall_productId_ne_iff (h : Ascending c.products) :
    (∀ o ∈ c.offersAt time, o.productId ≠ id) ↔ c.find? id = none := by
  have hexists : (∃ o ∈ c.offersAt time, o.productId = id ∧ True) ↔
      ∃ p, c.find? id = some p ∧ True := exists_mem_offersAt_iff h
  simp only [and_true] at hexists
  rw [Option.eq_none_iff_forall_ne_some]
  simpa using not_congr hexists

end Catalogue

/-! ### Trying to buy -/

/-- All verdicts that are ever given. -/
def Verdict.all : List Verdict :=
  [.running, .notStarted, .soldOut, .ended]

theorem Product.verdictAt_mem_all (p : Product) (time : Int64) : p.verdictAt time ∈ Verdict.all := by
  unfold verdictAt
  split
  · decide
  · split
    · decide
    · split
      · decide
      · decide

/-- The code of a verdict and its flags say the same. -/
theorem Verdict.code_iff_flags : ∀ v ∈ Verdict.all, v.code ≠ .notFoundProduct ∧
    (v.code = .ok ↔ v.start = true) ∧
    (v.code = .activeNotStarted ↔ v.start = false ∧ v.finished = false) ∧
    (v.code = .activeSoldOut ∨ v.code = .activeAlreadyEnded ↔
      v.start = false ∧ v.finished = true) := by
  decide

/-- What is said about a purchase is what the list says. -/
theorem Gateway.verdict_matches {c : Catalogue} (h : Catalogue.Ascending c.products)
    (id : UInt64) (time : Int64) : (verdict c id time).Matches (c.offersAt time) id := by
  cases hfind : c.find? id with
  | none =>
    have hcode : (verdict c id time).code = .notFoundProduct := by
      rw [verdict, hfind]
      rfl
    have hno (property : Offer → Prop) :
        ¬∃ o ∈ c.offersAt time, o.productId = id ∧ property o := by
      rw [Catalogue.exists_mem_offersAt_iff h, hfind]
      simp
    refine ⟨?_, ?_, ?_, ?_, fun o ho hid => ?_⟩
    · rw [Catalogue.forall_productId_ne_iff h, hfind, hcode]
      simp
    · simp [hcode, hno]
    · simp [hcode, hno]
    · simp [hcode, hno]
    · exact absurd hid ((Catalogue.forall_productId_ne_iff h).mpr hfind o ho)
  | some p =>
    obtain ⟨hknown, hadmitted, hearly, hover⟩ :=
      Verdict.code_iff_flags _ (p.verdictAt_mem_all time)
    have hverdict : verdict c id time =
        .status (p.verdictAt time).code (p.verdictAt time).status := by
      rw [verdict, hfind]
    have hentry {property : Offer → Prop} :
        (∃ o ∈ c.offersAt time, o.productId = id ∧ property o) ↔ property (p.offerAt time) := by
      simp [Catalogue.exists_mem_offersAt_iff h, hfind]
    rw [hverdict]
    refine ⟨?_, ?_, ?_, ?_, fun o ho hid => ?_⟩
    · rw [Catalogue.forall_productId_ne_iff h, hfind]
      simp [Envelope.code, hknown]
    · rw [hentry]
      exact hadmitted
    · rw [hentry]
      exact hearly
    · rw [hentry]
      exact hover
    · obtain ⟨q, hq, rfl⟩ := (Catalogue.mem_offersAt_iff h).mp ⟨ho, hid⟩
      rw [hfind] at hq
      obtain rfl := Option.some.inj hq
      rfl

/-! ### All answers -/

namespace Gateway

variable {g : Gateway} {r : Request} {id : UInt64}

theorem handle_all (hkind : r.kind = .info) (hall : r.query.lookup "product_id" = none) :
    (g.handle r).1 = .list (g.catalogue.offersAt r.time) := by
  rw [handle, hkind]
  simp only [tell, Request.product?, hall, Option.map_none]
  rfl

theorem handle_one (hkind : r.kind = .info) (hone : r.NamesProduct id) :
    (g.handle r).1 = match g.catalogue.find? id with
      | none => .status .notFoundProduct "product not found"
      | some p => .item (p.offerAt r.time) := by
  rw [handle, hkind]
  simp only [tell, Request.namesProduct_iff.mp hone]
  cases g.catalogue.find? id with
  | none => rfl
  | some p => rfl

theorem handle_admitted {user : UInt64} (hkind : r.kind = .purchase) (hone : r.NamesProduct id)
    (hauthentic : r.IsAuthentic g.authenticator user)
    (haccept : (g.limiter.observe user r.time).1 = .accept) :
    (g.handle r).1 = verdict g.catalogue id r.time := by
  have hread : r.purchase g.authenticator = .ok { product := id, user } :=
    Request.purchase_eq_ok_iff_isAuthentic.mpr ⟨hone, hauthentic⟩
  rw [handle, hkind]
  simp only [purchase, hread, haccept]

end Gateway

/-- For every catalogue and second there is one list of offers.  It has one
    entry for each id of the products, in the order of the ids, and every
    gateway that serves the catalogue then answers by it.  Who asks for all
    products gets the list; who asks for one gets its entry, or is told that it
    is unknown if there is none; and who tries to buy one and may go on is told
    what the entry says. -/
theorem Gateway.answers_agree (revision : Int64) (products : List Product) (time : Int64) :
    ∃ offers : List Offer,
      (offers.map Offer.productId).Pairwise (· < ·) ∧
      (∀ id, id ∈ offers.map Offer.productId ↔ id ∈ products.map Product.id) ∧
      ∀ (g : Gateway) (r : Request), g.catalogue = .ofProducts revision products →
        r.time = time →
        (r.kind = .info → r.query.lookup "product_id" = none → (g.handle r).1 = .list offers) ∧
        ∀ id, r.NamesProduct id →
          (r.kind = .info →
            (∀ o, (g.handle r).1 = .item o ↔ o ∈ offers ∧ o.productId = id) ∧
            ((g.handle r).1.code = .notFoundProduct ↔ ∀ o ∈ offers, o.productId ≠ id)) ∧
          (r.kind = .purchase → ∀ user, r.IsAuthentic g.authenticator user →
            (g.limiter.observe user time).1 = .accept →
            (g.handle r).1.Matches offers id) := by
  have hascending := Catalogue.ascending_ofProducts revision products
  refine ⟨(Catalogue.ofProducts revision products).offersAt time, ?_, fun id => ?_,
    fun g r hc htime => ⟨fun hkind hall => ?_, fun id hone => ⟨fun hkind => ?_,
      fun hkind user hauthentic haccept => ?_⟩⟩⟩
  · rw [Catalogue.map_productId_offersAt]
    exact List.pairwise_map.mpr hascending
  · rw [Catalogue.map_productId_offersAt]
    exact Catalogue.mem_ids_ofProducts
  · rw [handle_all hkind hall, hc, htime]
  · rw [handle_one hkind hone, hc, htime, Catalogue.forall_productId_ne_iff hascending]
    simp only [Catalogue.mem_offersAt_iff hascending]
    cases (Catalogue.ofProducts revision products).find? id with
    | none => simp [Envelope.code]
    | some p => simp [Envelope.code]
  · subst htime
    rw [handle_admitted hkind hone hauthentic haccept, hc]
    exact verdict_matches hascending id r.time

/-- Product 7 is given twice, first as sold out and then as one whose sale has
    not begun; product 8 is not given at all. -/
theorem Gateway.answers_agree_given_twice :
    let a : Authenticator := { secret := "k", scheme := .md5 }
    let early : Product :=
      { id := 7, startTime := 10, endTime := 20, status := .normal, count := 1, left := 1 }
    let products : List Product :=
      [{ early with status := .soldOut }, { early with id := 3, startTime := 0 }, early]
    let g : Gateway :=
      { authenticator := a, limiter := .ofLimit 1
        watcher := { key := "/k", maxRetries := 1, next := 2, catalogue := .ofProducts 1 products } }
    let all : Request := { kind := .info, query := [], cookies := [], time := 5, id := .ofNat 0 }
    let one (id : String) : Request := { all with query := [("product_id", id)] }
    let buy : Request :=
      { one "7" with
        kind := .purchase, cookies := [("userId", "1"), ("userAuthSign", a.sign 1)] }
    buy.NamesProduct 7 ∧ buy.IsAuthentic a 1 ∧ (g.limiter.observe 1 5).1 = .accept ∧
      ∃ offers, (g.handle all).1 = .list offers ∧
        (early.offerAt 5 ∈ offers ∧ (g.handle (one "7")).1 = .item (early.offerAt 5)) ∧
        (g.handle buy).1.Matches offers 7 ∧ (g.handle buy).1.code = .activeNotStarted ∧
        (∀ o ∈ offers, o.productId ≠ 8) ∧ (g.handle (one "8")).1.code = .notFoundProduct := by
  intro a early products g all one buy
  have hread : buy.purchase a = .ok { product := 7, user := 1 } := by decide +kernel
  obtain ⟨hproduct, hauthentic⟩ := Request.purchase_eq_ok_iff_isAuthentic.mp hread
  have haccept : (g.limiter.observe 1 5).1 = .accept := by decide +kernel
  have hseven : (one "7").NamesProduct 7 := Request.namesProduct_iff.mpr (by decide +kernel)
  have height : (one "8").NamesProduct 8 := Request.namesProduct_iff.mpr (by decide +kernel)
  have hitem : (g.handle (one "7")).1 = .item (early.offerAt 5) := by decide +kernel
  have hunknown : (g.handle (one "8")).1.code = .notFoundProduct := by decide +kernel
  obtain ⟨offers, -, -, hagree⟩ := Gateway.answers_agree 1 products 5
  have hall := (hagree g all rfl rfl).1 rfl rfl
  have hlisted := ((((hagree g (one "7") rfl rfl).2 7 hseven).1 rfl).1 _).mp hitem
  have hnone := (((hagree g (one "8") rfl rfl).2 8 height).1 rfl).2.mp hunknown
  have hmatches := ((hagree g buy rfl rfl).2 7 hproduct).2 rfl 1 hauthentic haccept
  have hbegun : (g.handle buy).1.code = .activeNotStarted :=
    hmatches.early.mpr ⟨_, hlisted.1, hlisted.2, by decide, by decide⟩
  exact ⟨hproduct, hauthentic, haccept, offers, hall, ⟨hlisted.1, hitem⟩, hmatches, hbegun, hnone,
    hunknown⟩

end FlashSale
