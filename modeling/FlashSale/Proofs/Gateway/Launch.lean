import FlashSale.Gateway.Launch
import FlashSale.Proofs.Outcome
import FlashSale.Proofs.Signature
import FlashSale.Store.Memory

/-! # Launched gateways

    What is known of a gateway because it was launched: its settings stand the
    check, its authenticator is made from their secret, and its catalogue is what
    the store answered.

    A launch has three steps that can fail.  The second one, which makes the
    authenticator, never does, so settings that stand the check always get as far
    as the store. -/

namespace FlashSale

/-- Settings stand the check if nothing is missing and no number is zero. -/
theorem Settings.check_eq_ok_iff {s : Settings} :
    s.check = .ok () ↔
      s.endpoints.isEmpty = false ∧ (s.productKey.toList.dropWhile (· == '/')).isEmpty = false ∧
      s.secret.isEmpty = false ∧ s.accessLimit ≠ 0 ∧ s.storeTimeout ≠ 0 ∧ s.httpThreads ≠ 0 := by
  unfold Settings.check
  constructor
  · intro h
    repeat' split at h
    all_goals first | contradiction | simp_all
  · rintro ⟨hendpoints, hkey, hsecret, hlimit, htimeout, hthreads⟩
    simp [hendpoints, hkey, hsecret, hlimit, htimeout, hthreads]

/-- The authenticator with the chosen secret and scheme. -/
def Settings.authenticator (s : Settings) : Authenticator :=
  { secret := s.secret, scheme := s.scheme }

namespace Gateway

section

variable {m : Type → Type} [Monad m] {get : String → m (Except StoreError Fetched)} {s : Settings}

theorem launch_of_check_error {fault : Settings.Fault} (h : s.check = .error fault) :
    launch get s = pure (.error (.settings fault)) := by
  simp only [launch, h]

/-- If the settings stand the check, only the store can fail the launch. -/
theorem launch_of_check_ok (h : s.check = .ok ()) :
    launch get s = do
      let answer ← get s.watchedKey
      return (answer.mapError .store).map (ofFetched s s.authenticator) := by
  have hcreate : Authenticator.create s.secret s.scheme = .ok s.authenticator :=
    Authenticator.create_eq_ok s.secret s.scheme
  simp only [launch, h, hcreate]

end

/-- A gateway is launched from settings that stand the check and from an
    answer of the store. -/
theorem launch_eq_ok {get : String → Except StoreError Fetched} {s : Settings} {g : Gateway}
    (h : launch (m := Id) get s = .ok g) :
    s.check = .ok () ∧ ∃ f, get s.watchedKey = .ok f ∧ g = ofFetched s s.authenticator f := by
  cases hcheck : s.check with
  | error fault =>
    rw [launch_of_check_error hcheck] at h
    cases h
  | ok =>
    rw [launch_of_check_ok hcheck] at h
    obtain ⟨f, hanswer, hg⟩ := map_eq_ok_iff.mp h
    exact ⟨rfl, f, mapError_eq_ok_iff.mp hanswer, hg.symm⟩

/-- A gateway is launched against a store in memory from what is stored there. -/
theorem launch_store_eq_ok {s : Settings} {store store' : MemoryStore} {g : Gateway}
    (h : launch (m := StateM MemoryStore) (fun key store => store.get key) s store =
      (.ok g, store')) :
    ∃ f, store.get s.watchedKey = (.ok f, store') ∧ g = ofFetched s s.authenticator f := by
  cases hcheck : s.check with
  | error fault =>
    rw [launch_of_check_error hcheck] at h
    cases h
  | ok =>
    rw [launch_of_check_ok hcheck] at h
    obtain ⟨hresult, rfl⟩ := Prod.mk.inj h
    obtain ⟨f, hanswer, hg⟩ := map_eq_ok_iff.mp hresult
    exact ⟨f, Prod.ext (mapError_eq_ok_iff.mp hanswer) rfl, hg.symm⟩

end Gateway

end FlashSale
