import FlashSale.Proofs.Catalogue.Accepted
import FlashSale.Proofs.Gateway.Launch
import FlashSale.Proofs.Signature
import FlashSale.Proofs.Watcher.Exchanges
import FlashSale.Proofs.Word
import FlashSale.Store.Etcd.Client

/-! # Launching against any store

    A launch puts at most one question to the store.  It fails because of the
    settings or because the store gives no answer, never because of what is
    stored.  A gateway that was launched starts from the value that was read,
    and goes on from the revision of the store, which may be a later one. -/

namespace FlashSale

/-! ### Stores that keep a log -/

section

variable {σ : Type}

/-- A store that notes down the questions put to it; `get` is how it answers
    them. -/
def logged (get : String → StateM σ (Except StoreError Fetched)) (key : String) :
    StateM (List Call × σ) (Except StoreError Fetched) :=
  fun (calls, store) =>
    let (answer, store) := get key store
    (answer, calls ++ [.get key], store)

/-- What came of a launch: the gateway or the error, the questions that were put
    to the store, and the store as it is then. -/
structure Launched (σ : Type) where
  result : Except LaunchError Gateway
  calls : List Call
  store : σ

/-- A launch against a store. -/
def Gateway.launchOn (get : String → StateM σ (Except StoreError Fetched)) (s : Settings)
    (store : σ) : Launched σ :=
  let (result, calls, store) := launch (logged get) s ([], store)
  { result, calls, store }

/-- All questions that come of a launch: its own ones and, if there is a gateway,
    those of its watcher in the occurrences after it. -/
def Launched.traffic (l : Launched σ) (os : List Occurrence) : List Call :=
  l.calls ++
    match l.result with
    | .error _ => []
    | .ok g => g.watcher.call?.toList ++ g.watcher.asked os

end

namespace Gateway

/-! ### What a gateway starts with -/

/-- A gateway as settings and the first answer of a store make it. -/
structure StartsFrom (s : Settings) (f : Fetched) (g : Gateway) : Prop where
  /-- The secret was accepted. -/
  authenticator : Authenticator.create s.secret s.scheme = .ok g.authenticator
  /-- The limit is the chosen one, and nobody was seen so far. -/
  limiter : g.limiter = .ofLimit s.accessLimit
  /-- A value that can be read is served at its own revision. -/
  readable : ∀ kv products, f.kv = some kv → Product.readList kv.value = .ok products →
    g.catalogue = .ofProducts kv.revision products
  /-- Without one nothing is served. -/
  unreadable : (∀ kv, f.kv = some kv → ∃ e, Product.readList kv.value = .error e) →
    g.catalogue.products = [] ∧ g.catalogue.revision = 0

theorem startsFrom_ofFetched (s : Settings) (f : Fetched) :
    StartsFrom s f (ofFetched s s.authenticator f) where
  authenticator := Authenticator.create_eq_ok s.secret s.scheme
  limiter := rfl
  readable := by
    intro kv products hkv hread
    show Catalogue.initial.refresh f = _
    simp [Catalogue.refresh_eq, hkv, KeyValue.catalogue?, hread]
  unreadable := by
    intro hnone
    have hinitial : Catalogue.initial.refresh f = .initial := by
      rw [Catalogue.refresh_eq]
      cases hkv : f.kv with
      | none => rfl
      | some kv =>
        obtain ⟨e, he⟩ := hnone kv hkv
        simp [KeyValue.catalogue?, he]
    show (Catalogue.initial.refresh f).products = [] ∧ (Catalogue.initial.refresh f).revision = 0
    rw [hinitial]
    exact ⟨rfl, rfl⟩

/-! ### Launching -/

variable {σ : Type} {get : String → StateM σ (Except StoreError Fetched)} {s : Settings} {store : σ}

theorem launchOn_of_check_error {fault : Settings.Fault} (h : s.check = .error fault) :
    launchOn get s store = { result := .error (.settings fault), calls := [], store } := by
  rw [launchOn, launch_of_check_error h]
  rfl

theorem launchOn_of_check_ok (h : s.check = .ok ()) :
    launchOn get s store =
      { result := ((get s.watchedKey store).1.mapError .store).map (ofFetched s s.authenticator)
        calls := [.get s.watchedKey]
        store := (get s.watchedKey store).2 } := by
  rw [launchOn, launch_of_check_ok h]
  rfl

/-- The client of settings that stand the check knows an endpoint. -/
theorem client_of_check (h : s.check = .ok ()) :
    ∃ client, Etcd.Client.ofEndpoints s.endpoints = .ok client ∧ client.endpoints ≠ [] := by
  have hsome := (Settings.check_eq_ok_iff.mp h).1
  refine ⟨{ endpoints := s.endpoints.map Etcd.endpointUrl }, ?_, ?_⟩
  · rw [Etcd.Client.ofEndpoints, hsome]
    rfl
  · simpa using hsome

/-- Whatever the settings and the store are: settings that do not stand the
    check fail the launch with their fault, and the store is left alone.  Else
    there is an endpoint to ask and the secret can be used, and the store is
    asked once, for the watched key.  If it gives no answer, its error fails the
    launch and nothing more is asked.  If it does there is a gateway, which
    starts from what was read, and the first stream that it asks for begins
    right behind the revision of the store. -/
theorem launchOn_outcome (get : String → StateM σ (Except StoreError Fetched)) (s : Settings)
    (store : σ) :
    let l := launchOn get s store
    let key := s.watchedKey
    (∀ fault, s.check = .error fault →
      l.result = .error (.settings fault) ∧ l.store = store ∧ ∀ os, l.traffic os = []) ∧
    (s.check = .ok () →
      (∃ client, Etcd.Client.ofEndpoints s.endpoints = .ok client ∧ client.endpoints ≠ []) ∧
      (∃ a, Authenticator.create s.secret s.scheme = .ok a) ∧
      l.calls = [.get key] ∧ l.store = (get key store).2 ∧
      (∀ e, (get key store).1 = .error e →
        l.result = .error (.store e) ∧ ∀ os, l.traffic os = [.get key]) ∧
      ∀ f, (get key store).1 = .ok f →
        (∃ g, l.result = .ok g ∧ StartsFrom s f g) ∧
        (f.revision < Int64.maxValue → ∃ start : Int64, start.toInt = f.revision.toInt + 1 ∧
          ∀ os, ∃ later, l.traffic os = .get key :: .watch key start :: later)) := by
  intro l key
  constructor
  · intro fault hcheck
    rw [show l = _ from launchOn_of_check_error hcheck]
    exact ⟨rfl, rfl, fun os => rfl⟩
  · intro hcheck
    rw [show l = _ from launchOn_of_check_ok hcheck]
    refine ⟨client_of_check hcheck, ⟨_, Authenticator.create_eq_ok _ _⟩, rfl, rfl, ?_, ?_⟩
    · intro e he
      rw [show (get s.watchedKey store).1 = .error e from he]
      exact ⟨rfl, fun os => rfl⟩
    · intro f hf
      rw [show (get s.watchedKey store).1 = .ok f from hf]
      refine ⟨⟨ofFetched s s.authenticator f, rfl, startsFrom_ofFetched s f⟩, fun hrevision => ?_⟩
      refine ⟨f.revision + 1, toInt_add_one hrevision, fun os => ?_⟩
      exact ⟨(ofFetched s s.authenticator f).watcher.asked os, rfl⟩

/-- Without a limit nothing is launched.  With one, a store that gives no answer
    fails the launch, an unreadable value does not, and a readable one is served
    at its own revision 3 although the store is at revision 9 already. -/
theorem launchOn_outcome_of_answers :
    let s : Settings := { secret := "secret" }
    let key := "/seckill/product"
    let answering (answer : Except StoreError Fetched) (_ : String) :
        StateM Unit (Except StoreError Fetched) := pure answer
    let sale (id : UInt64) : Product :=
      { id, startTime := 0, endTime := 10, status := .normal, count := 1, left := 1 }
    let holding (value : Text.Bytes) : Fetched :=
      { kv := some { key, value, revision := 3 }, revision := 9 }
    let listed := holding (Product.writeList [sale 2, sale 1])
    (launchOn (answering (.ok listed)) { s with accessLimit := 0 } ()).result =
        .error (.settings (.invalid .accessLimit .noRequests)) ∧
      (launchOn (answering (.error .noEndpoints)) s ()).result = .error (.store .noEndpoints) ∧
      (∃ g, (launchOn (answering (.ok (holding []))) s ()).result = .ok g ∧
        g.catalogue.products = [] ∧ g.catalogue.revision = 0) ∧
      (∃ g, (launchOn (answering (.ok listed)) s ()).result = .ok g ∧
        g.catalogue = .ofProducts 3 [sale 2, sale 1] ∧ g.limiter = .ofLimit 1) ∧
      ∃ later, (launchOn (answering (.ok listed)) s ()).traffic [] =
        .get key :: .watch key 10 :: later := by
  intro s key answering sale holding listed
  have hrejects : ({ s with accessLimit := 0 } : Settings).check =
      .error (.invalid .accessLimit .noRequests) := by decide +kernel
  have haccepts : s.check = .ok () := by decide +kernel
  have hkey : s.watchedKey = key := by decide +kernel
  have hread : Product.readList (Product.writeList [sale 2, sale 1]) = .ok [sale 2, sale 1] := by
    decide +kernel
  have hempty : ∃ e, Product.readList [] = .error e := ⟨_, rfl⟩
  obtain ⟨hrejected, -⟩ := launchOn_outcome (answering (.ok listed)) { s with accessLimit := 0 } ()
  have outcome (answer : Except StoreError Fetched) :=
    (launchOn_outcome (answering answer) s ()).2 haccepts
  obtain ⟨-, -, -, -, hfails, -⟩ := outcome (.error .noEndpoints)
  obtain ⟨-, -, -, -, -, hunread⟩ := outcome (.ok (holding []))
  obtain ⟨-, -, -, -, -, hlisted⟩ := outcome (.ok listed)
  refine ⟨(hrejected _ hrejects).1, (hfails _ rfl).1, ?_, ?_, ?_⟩
  · obtain ⟨⟨g, hg, hstarts⟩, -⟩ := hunread (holding []) rfl
    refine ⟨g, hg, hstarts.unreadable fun kv hkv => ?_⟩
    obtain rfl := Option.some.inj hkv
    exact hempty
  · obtain ⟨⟨g, hg, hstarts⟩, -⟩ := hlisted listed rfl
    exact ⟨g, hg, hstarts.readable _ _ rfl hread, hstarts.limiter⟩
  · obtain ⟨-, hwatch⟩ := hlisted listed rfl
    obtain ⟨start, hstart, htraffic⟩ := hwatch (by decide)
    obtain ⟨later, hlater⟩ := htraffic []
    have hten : start = 10 := Int64.toInt_inj.mp hstart
    refine ⟨later, ?_⟩
    rw [hlater, hkey, hten]

end Gateway

end FlashSale
