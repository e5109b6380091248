import FlashSale.Proofs.Text.Decimal
import FlashSale.Settings.Override
import Mathlib.Data.List.Nodup

/-! # What the environment overrides

    A variable that is set chooses for its setting, and nothing else chooses for
    it.  All settings are overridden if every variable that is set can be read;
    otherwise those before the first variable that cannot, and the fault names
    the setting of that one. -/

namespace FlashSale

open Text

/-! ### One setting at a time -/

namespace Setting

theorem mem_all (k : Setting) : k ∈ all := by
  cases k <;> decide

/-- No variable overrides two settings. -/
theorem nodup_variableNames : (all.map variableName).Nodup := by
  decide +kernel

example : all.map variableName =
    ["SECKILL_REDIS_ADDR", "SECKILL_ETCD_ADDR", "SECKILL_ETCD_SEC_KEY_PREFIX",
      "SECKILL_ETCD_PRODUCT_KEY", "SECKILL_ETCD_TIMEOUT", "SECKILL_LOG_PATH", "SECKILL_LOG_LEVEL",
      "SECKILL_COOKIE_SECRETKEY", "SECKILL_COOKIE_SIGN_ALGORITHM",
      "SECKILL_USER_SEC_ACCESS_LIMIT", "SECKILL_HTTP_ADDR", "SECKILL_HTTP_THREADS",
      "SECKILL_WATCH_MAX_RETRIES"] := by
  decide +kernel

theorem nodup_all : all.Nodup :=
  nodup_variableNames.of_map variableName

end Setting

namespace Settings

/-- Settings are what is chosen for each of them. -/
theorem ext_get {s t : Settings} (h : ∀ k, s.get k = t.get k) : s = t := by
  obtain ⟨⟩ := s
  obtain ⟨⟩ := t
  simp only [mk.injEq]
  exact ⟨h .redisAddress, h .storeAddresses, h .keyPrefix, h .productKey, h .storeTimeout,
    h .logPath, h .logLevel, h .secret, h .scheme, h .accessLimit, h .httpAddress, h .httpThreads,
    h .maxRetries⟩

@[simp] theorem get_set_self (s : Settings) (k : Setting) (v : k.Choice) :
    (s.set k v).get k = v := by
  cases k <;> rfl

theorem get_set_of_ne {j k : Setting} (s : Settings) (v : k.Choice) (h : j ≠ k) :
    (s.set k v).get j = s.get j := by
  cases k <;> cases j <;> first | rfl | exact absurd rfl h

theorem set_get (s : Settings) (k : Setting) : s.set k (s.get k) = s := by
  cases k <;> rfl

end Settings

/-! ### What a variable says -/

/-- The text is the name of the scheme, in any case. -/
inductive SignatureScheme.IsNamed (text : String) : SignatureScheme → Prop
  | hmacSha256 (same : asciiLower text.toList = "hmac-sha256".toList) : IsNamed text .hmacSha256
  | md5 (same : asciiLower text.toList = "md5".toList) : IsNamed text .md5

namespace Setting

/-- The largest number that can be chosen, for settings that are numbers. -/
def max? : Setting → Option Nat
  | .storeTimeout => some (UInt64.size - 1)
  | .accessLimit | .httpThreads | .maxRetries => some (UInt32.size - 1)
  | _ => none

/-- The text can stand for a setting: for a number it spells one of the range,
    perhaps with white space around it, and for a scheme it is a name of one. -/
def Accepts (k : Setting) (text : String) : Prop :=
  (∀ max, k.max? = some max → ∃ n ≤ max, numeral? (trim text.toList) = some n) ∧
    (k = .scheme → ∃ scheme, SignatureScheme.IsNamed text scheme)

/-- The text stands for the choice. -/
def Means : (k : Setting) → String → k.Choice → Prop
  | .redisAddress, text, v | .logPath, text, v => v = some text
  | .storeAddresses, text, v | .keyPrefix, text, v | .productKey, text, v | .logLevel, text, v
  | .secret, text, v | .httpAddress, text, v => v = text
  | .storeTimeout, text, v => numeral? (trim text.toList) = some v.toNat
  | .scheme, text, v => v.IsNamed text
  | .accessLimit, text, v | .httpThreads, text, v | .maxRetries, text, v =>
    numeral? (trim text.toList) = some v.toNat

/-- The text cannot stand for a setting, and why. -/
inductive Refuses (k : Setting) (text : String) : Settings.Reason → Prop
  | number {max : Nat} {fault : IntegerFault} (range : k.max? = some max)
    (bad : readNatural max (trim text.toList) = .error fault) : Refuses k text (.badNumber text fault)
  | scheme (is : k = .scheme) (unknown : ∀ scheme, ¬SignatureScheme.IsNamed text scheme) :
    Refuses k text (.unknownScheme text)

end Setting

theorem SignatureScheme.parse?_eq_some_iff {text : String} {scheme : SignatureScheme} :
    SignatureScheme.parse? text = some scheme ↔ SignatureScheme.IsNamed text scheme := by
  have hname (name : String) :
      String.ofList (asciiLower text.toList) = name ↔ asciiLower text.toList = name.toList := by
    rw [← String.toList_inj, String.toList_ofList]
  simp only [SignatureScheme.parse?, SignatureScheme.ofName?, hname]
  constructor
  · intro h
    split at h
    · next hhmac =>
      obtain rfl := Option.some.inj h
      exact .hmacSha256 hhmac
    split at h
    · next hmd5 =>
      obtain rfl := Option.some.inj h
      exact .md5 hmd5
    · cases h
  · intro h
    cases h with
    | hmacSha256 hhmac => rw [if_pos hhmac]
    | md5 hmd5 =>
      -- No text is the name of both.
      rw [hmd5, if_neg (by decide), if_pos rfl]

theorem SignatureScheme.parse?_eq_none_iff {text : String} :
    SignatureScheme.parse? text = none ↔ ∀ scheme, ¬SignatureScheme.IsNamed text scheme := by
  simp only [Option.eq_none_iff_forall_ne_some, ne_eq, SignatureScheme.parse?_eq_some_iff]

namespace Setting

variable {k : Setting} {text : String}

theorem readNumber_eq_ok_iff {α : Type} {read : List Char → Except IntegerFault α} {n : α} :
    readNumber read text = .ok n ↔ read (trim text.toList) = .ok n :=
  mapError_eq_ok_iff

theorem readScheme_eq_ok_iff {scheme : SignatureScheme} :
    readScheme text = .ok scheme ↔ scheme.IsNamed text := by
  rw [← SignatureScheme.parse?_eq_some_iff, readScheme]
  cases SignatureScheme.parse? text <;> simp

theorem readScheme_eq_error_iff {reason : Settings.Reason} :
    readScheme text = .error reason ↔
      (∀ scheme, ¬SignatureScheme.IsNamed text scheme) ∧ .unknownScheme text = reason := by
  rw [← SignatureScheme.parse?_eq_none_iff, readScheme]
  cases SignatureScheme.parse? text <;> simp

/-- A text is read as the choice that it stands for. -/
theorem read_eq_ok_iff {v : k.Choice} : k.read text = .ok v ↔ k.Means text v := by
  match k with
  | .redisAddress | .logPath | .storeAddresses | .keyPrefix | .productKey | .logLevel | .secret
  | .httpAddress =>
    exact (Except.ok.injEq _ _).to_iff.trans eq_comm
  | .storeTimeout => exact readNumber_eq_ok_iff.trans readUInt64_eq_ok_iff
  | .scheme => exact readScheme_eq_ok_iff
  | .accessLimit | .httpThreads | .maxRetries =>
    exact readNumber_eq_ok_iff.trans readUInt32_eq_ok_iff

section

variable {α : Type} {ofNat : Nat → α} {max : Nat} {reason : Settings.Reason}

theorem exists_readNumber_iff :
    (∃ n, readNumber (fun cs => (readNatural max cs).map ofNat) text = .ok n) ↔
      ∃ n ≤ max, numeral? (trim text.toList) = some n := by
  simp only [readNumber_eq_ok_iff, map_eq_ok_iff, readNatural_eq_ok_iff]
  constructor
  · intro h
    obtain ⟨-, n, ⟨hn, hle⟩, -⟩ := h
    exact ⟨n, hle, hn⟩
  · intro h
    obtain ⟨n, hle, hn⟩ := h
    exact ⟨ofNat n, n, ⟨hn, hle⟩, rfl⟩

theorem readNumber_eq_error_iff :
    readNumber (fun cs => (readNatural max cs).map ofNat) text = .error reason ↔
      ∃ fault, readNatural max (trim text.toList) = .error fault ∧ .badNumber text fault = reason := by
  simp only [readNumber, mapError_eq_error_iff, map_eq_error_iff]

theorem accepts_number_iff (hnumber : k.max? = some max) :
    k.Accepts text ↔ ∃ n ≤ max, numeral? (trim text.toList) = some n := by
  have hscheme : k ≠ .scheme := by
    rintro rfl
    cases hnumber
  simp [Accepts, hnumber, hscheme]

theorem refuses_number_iff (hnumber : k.max? = some max) :
    k.Refuses text reason ↔
      ∃ fault, readNatural max (trim text.toList) = .error fault ∧
        .badNumber text fault = reason := by
  constructor
  · intro h
    cases h with
    | number hrange hbad =>
      obtain rfl := Option.some.inj (hnumber.symm.trans hrange)
      exact ⟨_, hbad, rfl⟩
    | scheme his =>
      subst his
      cases hnumber
  · intro h
    obtain ⟨fault, hbad, rfl⟩ := h
    exact .number hnumber hbad

end

/-- A text can stand for a setting exactly if it can be read. -/
theorem accepts_iff : k.Accepts text ↔ ∃ v, k.read text = .ok v := by
  match k with
  | .redisAddress | .logPath | .storeAddresses | .keyPrefix | .productKey | .logLevel | .secret
  | .httpAddress =>
    exact iff_of_true ⟨nofun, nofun⟩ ⟨_, rfl⟩
  | .storeTimeout | .accessLimit | .httpThreads | .maxRetries =>
    exact (accepts_number_iff rfl).trans exists_readNumber_iff.symm
  | .scheme =>
    simp only [Accepts, max?, read, readScheme_eq_ok_iff, reduceCtorEq, false_implies, implies_true,
      true_and, forall_const]

theorem read_eq_error_iff {reason : Settings.Reason} :
    k.read text = .error reason ↔ k.Refuses text reason := by
  match k with
  | .redisAddress | .logPath | .storeAddresses | .keyPrefix | .productKey | .logLevel | .secret
  | .httpAddress =>
    refine iff_of_false nofun fun h => ?_
    cases h with
    | number hrange => cases hrange
    | scheme his => cases his
  | .storeTimeout | .accessLimit | .httpThreads | .maxRetries =>
    exact readNumber_eq_error_iff.trans (refuses_number_iff rfl).symm
  | .scheme =>
    refine readScheme_eq_error_iff.trans ⟨fun h => ?_, fun h => ?_⟩
    · obtain ⟨hunknown, rfl⟩ := h
      exact .scheme rfl hunknown
    · cases h with
      | number hrange => cases hrange
      | scheme _ hunknown => exact ⟨hunknown, rfl⟩

theorem Refuses.not_accepts {reason : Settings.Reason} (h : k.Refuses text reason) :
    ¬k.Accepts text := by
  intro haccepts
  obtain ⟨v, hv⟩ := accepts_iff.mp haccepts
  rw [read_eq_error_iff.mpr h] at hv
  cases hv

end Setting

/-! ### All settings in turn -/

namespace Settings

/-- What the variable of one setting makes of settings, if it can be read. -/
inductive Chooses (env : Environment) (k : Setting) (s : Settings) : Settings → Prop
  | unset (unset : env.lookup k.variableName = none) : Chooses env k s s
  | set {text : String} {v : k.Choice} (found : env.lookup k.variableName = some text)
    (means : k.Means text v) : Chooses env k s (s.set k v)

/-- What the variables of some settings make of settings, if they can be read. -/
structure Overridden (env : Environment) (ks : List Setting) (s after : Settings) : Prop where
  /-- A setting with a variable is what its variable says. -/
  chosen : ∀ k ∈ ks, ∀ text, env.lookup k.variableName = some text → k.Means text (after.get k)
  /-- Any other is what it was. -/
  kept : ∀ k, (k ∈ ks → env.lookup k.variableName = none) → after.get k = s.get k

variable {env : Environment} {k : Setting} {ks before rest : List Setting}
  {s next after : Settings}

/-- One setting is overridden, and it goes on with the others, or its variable
    cannot be read, and it ends. -/
theorem overrideAll_cons_cases (env : Environment) (k : Setting) (s : Settings) :
    (∃ next, Chooses env k s next ∧
      ∀ ks, overrideAll env (k :: ks) s = overrideAll env ks next) ∨
    ∃ text reason, env.lookup k.variableName = some text ∧ k.Refuses text reason ∧
      ∀ ks, overrideAll env (k :: ks) s = (s, some (.invalid k reason)) := by
  cases hfound : env.lookup k.variableName with
  | none =>
    refine .inl ⟨s, .unset hfound, fun ks => ?_⟩
    rw [overrideAll, hfound]
  | some text =>
    cases hread : k.read text with
    | ok v =>
      refine .inl ⟨s.set k v, .set hfound (Setting.read_eq_ok_iff.mp hread), fun ks => ?_⟩
      rw [overrideAll, hfound]
      simp only [hread]
    | error reason =>
      refine .inr ⟨text, reason, rfl, Setting.read_eq_error_iff.mp hread, fun ks => ?_⟩
      rw [overrideAll, hfound]
      simp only [hread]

/-- Nothing that follows chooses for the first setting again. -/
theorem Overridden.cons (hk : k ∉ ks) (hfirst : Chooses env k s next)
    (h : Overridden env ks next after) : Overridden env (k :: ks) s after := by
  have hsame : after.get k = next.get k := h.kept k fun hmem => absurd hmem hk
  constructor
  · intro j hj text htext
    rcases List.mem_cons.mp hj with rfl | hj
    · rw [hsame]
      cases hfirst with
      | unset hunset =>
        rw [hunset] at htext
        cases htext
      | set hfound hmeans =>
        obtain rfl := Option.some.inj (hfound.symm.trans htext)
        rw [get_set_self]
        exact hmeans
    · exact h.chosen j hj text htext
  · intro j hj
    rw [h.kept j fun hmem => hj (List.mem_cons_of_mem k hmem)]
    cases hfirst with
    | unset => rfl
    | set hfound =>
      -- A setting with a variable is not among those that are kept.
      apply get_set_of_ne
      rintro rfl
      rw [hj List.mem_cons_self] at hfound
      cases hfound

/-- It ends early at the first variable that cannot be read, and those before it
    can be read. -/
theorem exists_of_overrideAll_eq_some {fault : Fault}
    (h : overrideAll env ks s = (after, some fault)) :
    ∃ before k later text reason, ks = before ++ k :: later ∧
      env.lookup k.variableName = some text ∧ k.Refuses text reason ∧ fault = .invalid k reason ∧
      overrideAll env before s = (after, none) := by
  induction ks generalizing s with
  | nil => cases h
  | cons k ks ih =>
    rcases overrideAll_cons_cases env k s with ⟨next, -, hnext⟩ | ⟨text, reason, hfound, hrefuses, hends⟩
    · rw [hnext] at h
      obtain ⟨before, j, later, text, reason, rfl, hfound, hrefuses, hfault, hbefore⟩ := ih h
      refine ⟨k :: before, j, later, text, reason, rfl, hfound, hrefuses, hfault, ?_⟩
      rw [hnext, hbefore]
    · rw [hends] at h
      obtain ⟨rfl, hfault⟩ := Prod.mk.inj h
      exact ⟨[], k, ks, text, reason, rfl, hfound, hrefuses, (Option.some.inj hfault).symm, rfl⟩

/-- If it does not end early, each variable chooses for its setting. -/
theorem overridden_of_overrideAll (hnodup : ks.Nodup) (h : overrideAll env ks s = (after, none)) :
    Overridden env ks s after := by
  induction ks generalizing s with
  | nil =>
    obtain ⟨rfl, -⟩ := Prod.mk.inj h
    exact ⟨nofun, fun _ _ => rfl⟩
  | cons k ks ih =>
    obtain ⟨hk, hothers⟩ := List.nodup_cons.mp hnodup
    rcases overrideAll_cons_cases env k s with ⟨next, hfirst, hnext⟩ | ⟨text, reason, -, -, hends⟩
    · rw [hnext] at h
      exact (ih hothers h).cons hk hfirst
    · rw [hends] at h
      cases h

/-- Settings that are as the variables say stay as they are. -/
theorem overrideAll_eq_self
    (h : ∀ k ∈ ks, ∀ text, env.lookup k.variableName = some text → k.Means text (s.get k)) :
    overrideAll env ks s = (s, none) := by
  induction ks with
  | nil => rfl
  | cons k ks ih =>
    obtain ⟨hk, hothers⟩ := List.forall_mem_cons.mp h
    rw [overrideAll]
    cases hvariable : env.lookup k.variableName with
    | none => exact ih hothers
    | some text =>
      simp only [Setting.read_eq_ok_iff.mpr (hk text hvariable), set_get]
      exact ih hothers

/-- It does not end early if and only if every variable can be read. -/
theorem overrideAll_eq_none_iff (hnodup : ks.Nodup) :
    (overrideAll env ks s).2 = none ↔
      ∀ k ∈ ks, ∀ text, env.lookup k.variableName = some text → k.Accepts text := by
  generalize hoverridden : overrideAll env ks s = overridden
  obtain ⟨after, fault?⟩ := overridden
  cases fault? with
  | none =>
    refine iff_of_true rfl fun k hk text htext => ?_
    have hmeans := (overridden_of_overrideAll hnodup hoverridden).chosen k hk text htext
    exact Setting.accepts_iff.mpr ⟨_, Setting.read_eq_ok_iff.mpr hmeans⟩
  | some fault =>
    obtain ⟨before, k, later, text, reason, rfl, htext, hrefuses, -, -⟩ :=
      exists_of_overrideAll_eq_some hoverridden
    refine iff_of_false nofun fun h => ?_
    exact hrefuses.not_accepts (h k (by simp) text htext)

/-- All settings are overridden if and only if every variable that is set can
    stand for its setting: a number of its range, or the name of a scheme.  Then
    each setting with a variable is what the variable says, every other is what
    it was, and overriding once more changes nothing.  Otherwise the fault names
    the first setting whose variable cannot stand for it; the settings before it
    are overridden, and neither it nor those behind it are changed. -/
theorem override_outcome (env : Environment) (s : Settings) :
    let after := (s.override env).1
    ((s.override env).2 = none ↔
      ∀ (k : Setting) (text : String),
        env.lookup k.variableName = some text → k.Accepts text) ∧
    ((s.override env).2 = none →
      Overridden env Setting.all s after ∧ after.override env = (after, none)) ∧
    ∀ fault, (s.override env).2 = some fault →
      ∃ before k later text reason, Setting.all = before ++ k :: later ∧
        env.lookup k.variableName = some text ∧ k.Refuses text reason ∧
        fault = .invalid k reason ∧
        (∀ j ∈ before, ∀ text, env.lookup j.variableName = some text → j.Accepts text) ∧
        Overridden env before s after ∧ ∀ j ∈ k :: later, after.get j = s.get j := by
  intro after
  refine ⟨?_, ?_, ?_⟩
  · rw [override, overrideAll_eq_none_iff Setting.nodup_all]
    constructor
    · intro h k
      exact h k k.mem_all
    · intro h k _
      exact h k
  · intro hnone
    have hall : overrideAll env Setting.all s = (after, none) := Prod.ext rfl hnone
    have hoverridden := overridden_of_overrideAll Setting.nodup_all hall
    exact ⟨hoverridden, overrideAll_eq_self hoverridden.chosen⟩
  · intro fault hfault
    have hall : overrideAll env Setting.all s = (after, some fault) := Prod.ext rfl hfault
    obtain ⟨before, k, later, text, reason, hsplit, hfound, hrefuses, rfl, hbefore⟩ :=
      exists_of_overrideAll_eq_some hall
    have hnodup : (before ++ k :: later).Nodup := hsplit ▸ Setting.nodup_all
    obtain ⟨hnodupBefore, -, hdisjoint⟩ := List.nodup_append.mp hnodup
    have hoverridden := overridden_of_overrideAll hnodupBefore hbefore
    have hreadable := (overrideAll_eq_none_iff hnodupBefore).mp (congrArg Prod.snd hbefore)
    refine ⟨before, k, later, text, reason, hsplit, hfound, hrefuses, rfl, hreadable,
      hoverridden, ?_⟩
    intro j hj
    exact hoverridden.kept j fun hmem => absurd rfl (hdisjoint j hmem j hj)

/-- A limit with white space and a sign is read; a number of threads beyond its
    range is not, and the fault comes although the next variable is bad as well.
    The limit before it is overridden, the retries behind it are not. -/
theorem override_outcome_threads_too_many :
    let env : Environment := [("SECKILL_WATCH_MAX_RETRIES", "many"),
      ("SECKILL_HTTP_THREADS", "4294967296"), ("SECKILL_USER_SEC_ACCESS_LIMIT", " +3 ")]
    let s : Settings := {}
    let after := (s.override env).1
    (s.override env).2 =
        some (.invalid .httpThreads (.badNumber "4294967296" .tooLarge)) ∧
      after.get .accessLimit = 3 ∧ after.get .httpThreads = 16 ∧ after.get .maxRetries = 30 ∧
      (s.override (env.drop 2)).2 = none ∧
      (s.override (env.drop 2)).1.override (env.drop 2) = s.override (env.drop 2) := by
  intro env s after
  have hfault : (s.override env).2 =
      some (.invalid .httpThreads (.badNumber "4294967296" .tooLarge)) := by decide +kernel
  have hgood : (s.override (env.drop 2)).2 = none := by decide +kernel
  obtain ⟨-, -, hearly⟩ := override_outcome env s
  obtain ⟨-, hall, -⟩ := override_outcome (env.drop 2) s
  obtain ⟨before, k, later, text, reason, hsplit, -, -, hk, -, hoverridden, hkept⟩ :=
    hearly _ hfault
  obtain ⟨rfl, -⟩ := Fault.invalid.inj hk
  -- The setting stands in the list only once, so this is its place.
  have hsplit : Setting.all.take 11 ++ .httpThreads :: [.maxRetries] =
      before ++ .httpThreads :: later := hsplit
  obtain ⟨rfl, -, rfl⟩ := (List.append_cons_inj_of_notMem (by decide) (by decide)).mp hsplit
  have hlimit : numeral? (trim " +3 ".toList) = some (after.get .accessLimit).toNat :=
    hoverridden.chosen .accessLimit (by decide) " +3 " (by decide +kernel)
  refine ⟨hfault, ?_, hkept .httpThreads (by simp), hkept .maxRetries (by simp), hgood,
    (hall hgood).2.trans (Prod.ext rfl hgood.symm)⟩
  apply UInt32.toNat_inj.mp
  exact Option.some.inj (hlimit.symm.trans (by decide +kernel))

end Settings

end FlashSale
