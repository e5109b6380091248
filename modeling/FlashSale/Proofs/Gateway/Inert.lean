import FlashSale.Proofs.Catalogue.Accepted
import FlashSale.Proofs.Gateway.Cap

/-! # Steps that leave no trace

    Questions about products, purchases that are refused before they are
    counted, and changes that bring no other products can be left out of a run,
    all or some of them: every request that stays is answered as before.

    Such a step may alter a revision, which clients never see.  So two gateways
    are compared up to revisions, and every step keeps them alike. -/

namespace FlashSale

/-! ### Gateways that are alike -/

/-- What is published next depends on the products served now, not on their
    revision. -/
theorem Catalogue.products_getD {c c' : Catalogue} (h : c.products = c'.products)
    (next : Option Catalogue) : (next.getD c).products = (next.getD c').products := by
  cases next with
  | none => exact h
  | some c => rfl

/-- Watchers that differ in nothing but revisions. -/
structure Watcher.Alike (w w' : Watcher) : Prop where
  key : w.key = w'.key
  maxRetries : w.maxRetries = w'.maxRetries
  products : w.catalogue.products = w'.catalogue.products
  failures : w.failures = w'.failures
  signalled : w.signalled = w'.signalled
  phase : w.phase = w'.phase

namespace Watcher.Alike

variable {w w' : Watcher}

theorem refl (w : Watcher) : w.Alike w :=
  ⟨rfl, rfl, rfl, rfl, rfl, rfl⟩

theorem trans {w'' : Watcher} (h : w.Alike w') (h' : w'.Alike w'') : w.Alike w'' :=
  ⟨h.key.trans h'.key, h.maxRetries.trans h'.maxRetries, h.products.trans h'.products,
    h.failures.trans h'.failures, h.signalled.trans h'.signalled, h.phase.trans h'.phase⟩

theorem lose (h : w.Alike w') : w.lose.Alike w'.lose := by
  unfold Watcher.lose
  rw [h.maxRetries, h.failures]
  split
  · exact ⟨h.key, rfl, h.products, rfl, h.signalled, rfl⟩
  · exact ⟨h.key, rfl, h.products, rfl, h.signalled, rfl⟩

theorem follow (h : w.Alike w') (change : Change) : (w.follow change).Alike (w'.follow change) where
  key := h.key
  maxRetries := h.maxRetries
  products := by
    show (w.catalogue.follow w.key change).products = (w'.catalogue.follow w'.key change).products
    rw [h.key, Catalogue.follow_eq, Catalogue.follow_eq]
    exact Catalogue.products_getD h.products _
  failures := h.failures
  signalled := h.signalled
  phase := h.phase

theorem refresh (h : w.Alike w') (f : Fetched) (phase : Phase) :
    Watcher.Alike { w.refresh f with phase } { w'.refresh f with phase } where
  key := h.key
  maxRetries := h.maxRetries
  products := by
    show (w.catalogue.refresh f).products = (w'.catalogue.refresh f).products
    rw [Catalogue.refresh_eq, Catalogue.refresh_eq]
    exact Catalogue.products_getD h.products _
  failures := h.failures
  signalled := h.signalled
  phase := rfl

/-- Whatever happens keeps watchers alike. -/
theorem step (h : w.Alike w') (o : Occurrence) : (w.step o).Alike (w'.step o) := by
  unfold Watcher.step
  rw [h.phase, h.signalled]
  split
  · exact ⟨h.key, h.maxRetries, h.products, h.failures, rfl, rfl⟩
  · exact ⟨h.key, h.maxRetries, h.products, rfl, rfl, rfl⟩
  · exact h.lose
  · exact h.follow _
  · exact h.lose
  · split
    · exact ⟨h.key, h.maxRetries, h.products, h.failures, rfl, rfl⟩
    · exact h
  · exact ⟨h.key, h.maxRetries, h.products, h.failures, rfl, rfl⟩
  · exact h.refresh _ .subscribing
  · exact h.lose
  · exact h

end Watcher.Alike

namespace Gateway

/-- Gateways that differ in nothing but revisions. -/
structure Alike (g g' : Gateway) : Prop where
  authenticator : g.authenticator = g'.authenticator
  limiter : g.limiter = g'.limiter
  watcher : g.watcher.Alike g'.watcher

/-- The gateway after a step of a run. -/
def after (g : Gateway) : GatewayEvent → Gateway
  | .request r => (g.handle r).2
  | .watcher o => g.observe o

/-- The answer that a step of a run gives, if it is a request. -/
def reply? (g : Gateway) : GatewayEvent → Option Envelope
  | .request r => some (g.handle r).1
  | .watcher _ => none

/-- What each step of a run gives as an answer. -/
def replies (g : Gateway) : List GatewayEvent → List (Option Envelope)
  | [] => []
  | e :: rest => g.reply? e :: (g.after e).replies rest

/-- The gateway after a run. -/
def afterAll (g : Gateway) (events : List GatewayEvent) : Gateway :=
  events.foldl after g

variable {g g' : Gateway}

theorem Alike.refl (g : Gateway) : g.Alike g :=
  ⟨rfl, rfl, .refl g.watcher⟩

theorem Alike.trans {g'' : Gateway} (h : g.Alike g') (h' : g'.Alike g'') : g.Alike g'' :=
  ⟨h.authenticator.trans h'.authenticator, h.limiter.trans h'.limiter, h.watcher.trans h'.watcher⟩

theorem Alike.find? (h : g.Alike g') (id : UInt64) :
    g.catalogue.find? id = g'.catalogue.find? id := by
  unfold Catalogue.find? catalogue
  rw [h.watcher.products]

theorem Alike.tell (h : g.Alike g') (r : Request) : g.tell r = g'.tell r := by
  unfold Gateway.tell
  simp only [h.find?]
  rw [show g.catalogue.products = g'.catalogue.products from h.watcher.products]

/-- Gateways that are alike answer alike, and stay alike. -/
theorem Alike.handle (h : g.Alike g') (r : Request) :
    (g.handle r).1 = (g'.handle r).1 ∧ (g.handle r).2.Alike (g'.handle r).2 := by
  unfold Gateway.handle
  cases r.kind with
  | info => exact ⟨h.tell r, h⟩
  | purchase =>
    unfold Gateway.purchase
    rw [h.authenticator]
    cases r.purchase g'.authenticator with
    | error refusal => exact ⟨rfl, h⟩
    | ok p =>
      dsimp only
      rw [h.limiter]
      refine ⟨?_, rfl, rfl, h.watcher⟩
      unfold verdict
      rw [h.find?]

theorem Alike.after (h : g.Alike g') (e : GatewayEvent) :
    g.reply? e = g'.reply? e ∧ (g.after e).Alike (g'.after e) := by
  cases e with
  | request r =>
    obtain ⟨hanswer, halike⟩ := h.handle r
    exact ⟨congrArg some hanswer, halike⟩
  | watcher o => exact ⟨rfl, h.authenticator, h.limiter, h.watcher.step o⟩

/-! ### Inert steps -/

/-- The steps that leave no trace. -/
inductive Inert (g : Gateway) : GatewayEvent → Prop
  /-- A question about products. -/
  | question {r : Request} (kind : r.kind = .info) : Inert g (.request r)
  /-- A purchase that cannot be read. -/
  | malformed {r : Request} (kind : r.kind = .purchase)
    (code : (g.handle r).1.code = .invalidRequest) : Inert g (.request r)
  /-- A purchase of a user who is not authenticated. -/
  | unauthenticated {r : Request} (kind : r.kind = .purchase)
    (code : (g.handle r).1.code = .authFailed) : Inert g (.request r)
  /-- A delete, of whatever key. -/
  | deleted (key : String) (revision : Int64) :
    Inert g (.watcher (.received (.ok (.delete key revision))))
  /-- A put of another key. -/
  | foreign {kv : KeyValue} (key : kv.key ≠ g.watcher.key) :
    Inert g (.watcher (.received (.ok (.put kv))))
  /-- A put that cannot be read. -/
  | unreadable {kv : KeyValue} {fault : Product.Fault}
    (read : Product.readList kv.value = .error fault) :
    Inert g (.watcher (.received (.ok (.put kv))))
  /-- A put of the products that are served already. -/
  | republished {kv : KeyValue} {products : List Product}
    (read : Product.readList kv.value = .ok products)
    (same : (Catalogue.ofProducts kv.revision products).products = g.catalogue.products) :
    Inert g (.watcher (.received (.ok (.put kv))))

/-- What is counted is never answered as malformed or unauthenticated. -/
theorem code_of_attempt?_eq_some {r : Request} {t : Attempt}
    (h : r.attempt? g.authenticator = some t) :
    (g.handle r).1.code ≠ .invalidRequest ∧ (g.handle r).1.code ≠ .authFailed := by
  obtain ⟨hkind, -, p, hp, -⟩ := Request.attempt?_eq_some_iff.mp h
  simp only [handle, hkind, Gateway.purchase, hp]
  cases (g.limiter.observe p.user r.time).1 with
  | throttle => simp [Refusal.envelope, Refusal.code, Envelope.code]
  | accept =>
    have hcode := verdict_code g.catalogue p.product r.time
    constructor <;> intro hrefused <;> rw [hrefused] at hcode <;> simp at hcode

/-- A change that brings no other products leaves the gateway as it is. -/
theorem alike_received {change : Change}
    (h : (g.catalogue.follow g.watcher.key change).products = g.catalogue.products) :
    (g.after (.watcher (.received (.ok change)))).Alike g := by
  refine ⟨rfl, rfl, ?_⟩
  show (g.watcher.step (.received (.ok change))).Alike g.watcher
  unfold Watcher.step
  split
  case h_4 heq =>
    obtain rfl : change = _ := by simpa using heq
    exact ⟨rfl, rfl, h, rfl, rfl, rfl⟩
  all_goals simp_all [Watcher.Alike.refl]

/-- A purchase that is refused before it is counted leaves the gateway as it
    is. -/
theorem alike_refused {r : Request}
    (h : (g.handle r).1.code = .invalidRequest ∨ (g.handle r).1.code = .authFailed) :
    (g.after (.request r)).Alike g := by
  have hnone : r.attempt? g.authenticator = none := by
    by_contra hsome
    obtain ⟨t, ht⟩ := Option.ne_none_iff_exists'.mp hsome
    obtain ⟨hread, hauthenticated⟩ := code_of_attempt?_eq_some ht
    exact h.elim hread hauthenticated
  show (g.handle r).2.Alike g
  rw [handle_of_attempt?_eq_none hnone]
  exact .refl g

theorem Inert.alike {e : GatewayEvent} (h : g.Inert e) : (g.after e).Alike g := by
  cases h with
  | @question r kind =>
    show (g.handle r).2.Alike g
    simp only [Gateway.handle, kind]
    exact .refl g
  | malformed kind code => exact alike_refused (.inl code)
  | unauthenticated kind code => exact alike_refused (.inr code)
  | deleted key revision => exact alike_received rfl
  | foreign key => exact alike_received (by rw [Catalogue.follow, if_neg key])
  | unreadable read =>
    refine alike_received ?_
    simp only [Catalogue.follow_eq, Change.catalogue?, KeyValue.catalogue?, read]
    split <;> rfl
  | republished read same =>
    refine alike_received ?_
    simp only [Catalogue.follow_eq, Change.catalogue?, KeyValue.catalogue?, read]
    split
    · exact same
    · rfl

/-! ### Leaving steps out -/

/-- The elements of a list that are marked. -/
def marked {α : Type} (marks : List Bool) (xs : List α) : List α :=
  ((marks.zip xs).filter Prod.fst).map Prod.snd

theorem marked_cons {α : Type} (mark : Bool) (marks : List Bool) (x : α) (xs : List α) :
    marked (mark :: marks) (x :: xs) = (if mark then [x] else []) ++ marked marks xs := by
  cases mark <;> simp [marked]

/-- A gateway that is alike answers to what is left of a run as the other one
    does in the whole run. -/
theorem Alike.replies_marked (h : g.Alike g') {events : List GatewayEvent} {stays : List Bool}
    (hlength : stays.length = events.length)
    (hinert : ∀ n e, stays[n]? = some false → events[n]? = some e →
      (g.afterAll (events.take n)).Inert e) :
    g'.replies (marked stays events) = marked stays (g.replies events) := by
  induction events generalizing g g' stays with
  | nil => simp [marked, replies]
  | cons e rest ih =>
    obtain ⟨mark, marks, rfl⟩ := List.exists_cons_of_length_eq_add_one hlength
    have hlater : ∀ n e', marks[n]? = some false → rest[n]? = some e' →
        ((g.after e).afterAll (rest.take n)).Inert e' :=
      fun n e' hmark hevent => hinert (n + 1) e' hmark hevent
    have hrest : marks.length = rest.length := by simpa using hlength
    rw [replies, marked_cons, marked_cons]
    cases mark with
    | true =>
      obtain ⟨hreply, hafter⟩ := h.after e
      show g'.reply? e :: (g'.after e).replies (marked marks rest) = _
      rw [← hreply, ih hafter hrest hlater]
      rfl
    | false =>
      -- Only the whole run takes this step, and comes to a gateway that is still alike.
      have hafter : (g.after e).Alike g' := (hinert 0 e rfl rfl).alike.trans h
      exact ih hafter hrest hlater

/-- In every run, any of the inert steps can be left out: each step that stays
    gives the same answer as before. -/
theorem replies_without_inert (g : Gateway) {events : List GatewayEvent} {stays : List Bool}
    (hlength : stays.length = events.length)
    (hinert : ∀ n e, stays[n]? = some false → events[n]? = some e →
      (g.afterAll (events.take n)).Inert e) :
    g.replies (marked stays events) = marked stays (g.replies events) :=
  (Alike.refl g).replies_marked hlength hinert

/-- One attempt in a second is allowed.  A question, two purchases that are
    refused, the same products at a later revision and a delete are left out;
    the second attempt is still one too many, and the third is in another
    second. -/
theorem replies_without_inert_five :
    let s : Settings := { secret := "k", scheme := .md5, accessLimit := 1 }
    let sale : Product :=
      { id := 1, startTime := 0, endTime := 10, status := .normal, count := 1, left := 1 }
    let stored (revision : Int64) : KeyValue :=
      { key := s.watchedKey, value := Product.writeList [sale], revision }
    let g := ofFetched s s.authenticator { kv := some (stored 1), revision := 2 }
    let purchase := signedPurchase s.authenticator "7" 7
    let events : List GatewayEvent :=
      [.watcher (.subscribed (.ok ())), .request (purchase 5),
        .request { purchase 5 with kind := .info }, .request { purchase 5 with query := [] },
        .request { purchase 5 with cookies := [("userId", "7"), ("userAuthSign", "")] },
        .watcher (.received (.ok (.put (stored 3)))),
        .watcher (.received (.ok (.delete s.watchedKey 4))), .request (purchase 5),
        .request (purchase 6)]
    let stays := [true, true, false, false, false, false, false, true, true]
    stays.length = events.length ∧
      (∀ n e, stays[n]? = some false → events[n]? = some e →
        (g.afterAll (events.take n)).Inert e) ∧
      g.replies (marked stays events) = marked stays (g.replies events) ∧
      (g.replies (marked stays events)).map (·.map Envelope.code) =
        [none, some .ok, some .serviceBusy, some .ok] := by
  intro s sale stored g purchase events stays
  have hinert : ∀ n e, stays[n]? = some false → events[n]? = some e →
      (g.afterAll (events.take n)).Inert e := by
    intro n e hstays hevent
    match n with
    | 2 =>
      obtain rfl := Option.some.inj hevent
      exact .question rfl
    | 3 =>
      obtain rfl := Option.some.inj hevent
      exact .malformed rfl (by decide +kernel)
    | 4 =>
      obtain rfl := Option.some.inj hevent
      exact .unauthenticated rfl (by decide +kernel)
    | 5 =>
      obtain rfl := Option.some.inj hevent
      have hread : Product.readList (stored 3).value = .ok [sale] := by decide +kernel
      exact .republished hread (by decide +kernel)
    | 6 =>
      obtain rfl := Option.some.inj hevent
      exact .deleted s.watchedKey 4
    | 0 | 1 | 7 | 8 => simp [stays] at hstays
    | n + 9 => simp [stays] at hstays
  have hreplies := replies_without_inert g rfl hinert
  refine ⟨rfl, hinert, hreplies, ?_⟩
  decide +kernel

end Gateway

end FlashSale
