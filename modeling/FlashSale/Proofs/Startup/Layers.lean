import FlashSale.Proofs.Settings.File
import FlashSale.Proofs.Startup.Options
import FlashSale.Proofs.Text.Pieces
import FlashSale.Startup.Layers

/-! # Layers of settings

    Each setting is what the topmost layer with something to say about it says:
    the command line, the environment, the file, the defaults.

    Two of them stand on the command line in a form of their own.  The threads
    are given whole.  Of the address the host, the port or both are given, and
    the part that is not is a part of what the layers below say. -/

namespace FlashSale

open Text

/-! ### Below the command line -/

namespace Settings

/-- What the file, the environment and the defaults say about a setting. -/
inductive Below (entries : Toml.Entries) (env : Environment) (k : Setting) : k.Choice → Prop
  | environment {text : String} {v : k.Choice} (found : env.lookup k.variableName = some text)
    (means : k.Means text v) : Below entries env k v
  | file {value : Toml.Value} {v : k.Choice} (unset : env.lookup k.variableName = none)
    (found : entries.lookup k.name = some value) (means : k.ofToml? value = some v) :
    Below entries env k v
  | default (unset : env.lookup k.variableName = none) (unnamed : entries.lookup k.name = none) :
    Below entries env k (get {} k)

variable {entries : Toml.Entries} {env : Environment} {k : Setting} {v w : k.Choice}
  {s filed after : Settings}

/-- The layers say one thing. -/
theorem Below.unique (hv : Below entries env k v) (hw : Below entries env k w) : v = w := by
  cases hv with
  | environment hfound hmeans =>
    cases hw with
    | environment hfound' hmeans' =>
      obtain rfl := Option.some.inj (hfound.symm.trans hfound')
      rw [← Setting.read_eq_ok_iff] at hmeans hmeans'
      exact Except.ok.inj (hmeans.symm.trans hmeans')
    | file hunset | default hunset =>
      rw [hunset] at hfound
      cases hfound
  | file hunset hfound hmeans =>
    cases hw with
    | environment hset =>
      rw [hunset] at hset
      cases hset
    | file _ hfound' hmeans' =>
      obtain rfl := Option.some.inj (hfound.symm.trans hfound')
      exact Option.some.inj (hmeans.symm.trans hmeans')
    | default _ hunnamed =>
      rw [hunnamed] at hfound
      cases hfound
  | default hunset hunnamed =>
    cases hw with
    | environment hset =>
      rw [hunset] at hset
      cases hset
    | file _ hfound =>
      rw [hunnamed] at hfound
      cases hfound
    | default => rfl

/-- Settings from a file, overridden from the environment, are what the layers
    say. -/
theorem Filed.below (hfiled : Filed entries {} filed)
    (hoverridden : Overridden env Setting.all filed after) (k : Setting) :
    Below entries env k (after.get k) := by
  cases hset : env.lookup k.variableName with
  | some text => exact .environment hset (hoverridden.chosen k k.mem_all text hset)
  | none =>
    rw [hoverridden.kept k fun _ => hset]
    cases hnamed : entries.lookup k.name with
    | some value => exact .file hset hnamed (hfiled.chosen k value hnamed)
    | none =>
      rw [hfiled.kept k hnamed]
      exact .default hset hnamed

end Settings

namespace CommandLine

/-! ### The address -/

/-- The host and the port of an address: what stands before and behind its last
    colon, or all of it and 9091 if it has none. -/
inductive Parts (address : String) : String → String → Prop
  | colon {host port : String} (joined : address = host ++ ":" ++ port)
    (last : ':' ∉ port.toList) : Parts address host port
  | noColon (none : ':' ∉ address.toList) : Parts address address "9091"

/-- What the command line makes of the address below: if it has a host or a port,
    that takes the place of the host or the port there. -/
inductive Addressed (c : CommandLine) (below : String) : String → Prop
  | kept (host : c.host = none) (port : c.port = none) : Addressed c below below
  | replaced {host port : String} (given : c.host ≠ none ∨ c.port ≠ none)
    (parts : Parts below host port) :
    Addressed c below (c.host.getD host ++ ":" ++ (c.port.map fun n => natText n.toNat).getD port)

variable {c : CommandLine} {address below host port : String}

theorem Parts.splitAddress_eq (h : Parts address host port) : splitAddress address = (host, port) := by
  cases h with
  | colon hjoined hlast =>
    have hchars : address.toList = host.toList ++ ':' :: port.toList := by simp [hjoined]
    rw [splitAddress, hchars, splitLast?_eq_some hlast]
    simp
  | noColon hnone => rw [splitAddress, splitLast?_eq_none hnone]

theorem exists_parts (address : String) : ∃ host port, Parts address host port := by
  by_cases hcolon : ':' ∈ address.toList
  · obtain ⟨before, after, hchars, hafter⟩ := exists_append_cons_not_mem hcolon
    refine ⟨String.ofList before, String.ofList after, .colon ?_ (by simpa)⟩
    rw [← String.toList_inj]
    simp [hchars]
  · exact ⟨address, "9091", .noColon hcolon⟩

theorem Addressed.address_eq (h : Addressed c below address) : c.address below = address := by
  cases h with
  | kept hhost hport => simp [CommandLine.address, hhost, hport]
  | replaced hgiven hparts =>
    have hsome : ¬(c.host.isNone && c.port.isNone) = true := by
      simp only [Bool.and_eq_true, Option.isNone_iff_eq_none, not_and_or]
      exact hgiven
    rw [CommandLine.address, if_neg hsome, hparts.splitAddress_eq]

theorem addressed_address (c : CommandLine) (below : String) :
    Addressed c below (c.address below) := by
  by_cases hnone : c.host = none ∧ c.port = none
  · have hkept : Addressed c below below := .kept hnone.1 hnone.2
    rwa [hkept.address_eq]
  · obtain ⟨host, port, hparts⟩ := exists_parts below
    have hreplaced := Addressed.replaced (not_and_or.mp hnone) hparts
    rwa [hreplaced.address_eq]

/-! ### All layers -/

/-- What the file that is named on the command line says: nothing if none is
    named. -/
inductive FileOf (fileText : String → Except String String) (c : CommandLine) :
    Toml.Entries → Prop
  | absent (unnamed : c.config = none) : FileOf fileText c []
  | document {path text : String} {entries : Toml.Entries} (named : c.config = some path)
    (found : fileText path = .ok text) (parsed : Toml.parse? text = some entries) :
    FileOf fileText c entries

/-- Every layer can be read, and each setting is what the topmost one with
    something to say about it says. -/
structure Layered (entries : Toml.Entries) (env : Environment) (c : CommandLine) (s : Settings) :
    Prop where
  /-- Every entry of the file gives some setting a value. -/
  known : ∀ entry ∈ entries, ∃ (k : Setting) (v : k.Choice), k.Gives entry v
  /-- Every variable that is set can stand for its setting. -/
  readable : ∀ (k : Setting) (text : String),
    env.lookup k.variableName = some text → k.Accepts text
  address : ∃ below, Settings.Below entries env .httpAddress below ∧
    Addressed c below s.httpAddress
  threads : ∀ n, c.threads = some n → s.httpThreads = n
  threadsBelow : c.threads = none → Settings.Below entries env .httpThreads s.httpThreads
  /-- The command line says nothing about any other setting. -/
  others : ∀ k, k ≠ .httpAddress → k ≠ .httpThreads → Settings.Below entries env k (s.get k)

variable {fileText : String → Except String String} {env : Environment} {entries : Toml.Entries}
  {s t after : Settings}

theorem FileOf.distinct (h : FileOf fileText c entries) : entries.Distinct := by
  cases h with
  | absent => exact Toml.Entries.distinct_nil
  | document _ _ hparsed => exact Toml.distinct_of_parse? hparsed

theorem base_eq_ok_iff :
    c.base fileText = .ok s ↔ ∃ entries, FileOf fileText c entries ∧ Settings.Filed entries {} s := by
  unfold base
  cases hconfig : c.config with
  | none =>
    constructor
    · intro h
      obtain rfl := Except.ok.inj h
      exact ⟨[], .absent hconfig, nofun, nofun, fun _ _ => rfl⟩
    · intro h
      obtain ⟨entries, hfile, hfiled⟩ := h
      cases hfile with
      | absent => exact congrArg Except.ok (Settings.ext_get fun k => (hfiled.kept k rfl).symm)
      | document hnamed =>
        rw [hconfig] at hnamed
        cases hnamed
  | some path =>
    simp only [Settings.load_eq_ok_iff, Settings.parse?_eq_some_iff]
    constructor
    · intro h
      obtain ⟨text, htext, entries, hentries, hfiled⟩ := h
      exact ⟨entries, .document hconfig htext hentries, hfiled⟩
    · intro h
      obtain ⟨entries, hfile, hfiled⟩ := h
      cases hfile with
      | absent hunnamed =>
        rw [hconfig] at hunnamed
        cases hunnamed
      | document hnamed htext hentries =>
        obtain rfl := Option.some.inj (hconfig.symm.trans hnamed)
        exact ⟨_, htext, entries, hentries, hfiled⟩

/-- Only one choice of settings is in layers. -/
theorem Layered.unique (hs : Layered entries env c s) (ht : Layered entries env c t) : s = t := by
  apply Settings.ext_get
  intro k
  by_cases haddress : k = .httpAddress
  · -- The same parts are replaced in the same address.
    subst haddress
    obtain ⟨below, hbelow, hs⟩ := hs.address
    obtain ⟨below', hbelow', ht⟩ := ht.address
    obtain rfl := hbelow.unique hbelow'
    exact hs.address_eq.symm.trans ht.address_eq
  by_cases hthreads : k = .httpThreads
  · subst hthreads
    cases hgiven : c.threads with
    | none => exact (hs.threadsBelow hgiven).unique (ht.threadsBelow hgiven)
    | some n => exact (hs.threads n hgiven).trans (ht.threads n hgiven).symm
  · exact (hs.others k haddress hthreads).unique (ht.others k haddress hthreads)

/-- The command line is laid over what the layers below it say. -/
theorem layered_layOver (c : CommandLine)
    (hknown : ∀ entry ∈ entries, ∃ (k : Setting) (v : k.Choice), k.Gives entry v)
    (hreadable : ∀ (k : Setting) (text : String),
      env.lookup k.variableName = some text → k.Accepts text)
    (hbelow : ∀ k, Settings.Below entries env k (after.get k)) :
    Layered entries env c (c.layOver after) where
  known := hknown
  readable := hreadable
  address := ⟨after.httpAddress, hbelow .httpAddress, addressed_address c after.httpAddress⟩
  threads n hn := by simp [layOver, hn]
  threadsBelow hnone := by
    have hkept : (c.layOver after).httpThreads = after.httpThreads := by simp [layOver, hnone]
    rw [hkept]
    exact hbelow .httpThreads
  others k haddress hthreads := by
    have hkept : (c.layOver after).get k = after.get k := by
      cases k <;> first | rfl | contradiction
    rw [hkept]
    exact hbelow k

theorem settings_eq_ok_iff :
    c.settings fileText env = .ok s ↔
      ∃ filed after, c.base fileText = .ok filed ∧ filed.override env = (after, none) ∧
        c.layOver after = s ∧ s.check = .ok () := by
  unfold settings
  constructor
  · intro h
    split at h
    · cases h
    next filed hbase =>
    split at h
    · cases h
    next after hoverride =>
    simp only at h
    split at h
    · cases h
    next hcheck =>
    obtain rfl := Except.ok.inj h
    exact ⟨filed, after, hbase, hoverride, rfl, hcheck⟩
  · intro h
    obtain ⟨filed, after, hbase, hoverride, rfl, hcheck⟩ := h
    simp only [hbase, hoverride, hcheck]

/-- Settings can be had exactly if every layer can be read and they stand the
    check; then they are in layers. -/
theorem settings_eq_ok_iff_layered :
    c.settings fileText env = .ok s ↔
      (∃ entries, FileOf fileText c entries ∧ Layered entries env c s) ∧ s.check = .ok () := by
  rw [settings_eq_ok_iff]
  constructor
  · intro h
    obtain ⟨filed, after, hbase, hoverride, rfl, hcheck⟩ := h
    obtain ⟨entries, hfile, hfiled⟩ := base_eq_ok_iff.mp hbase
    have hoverridden := Settings.overridden_of_overrideAll Setting.nodup_all hoverride
    have hreadable := (Settings.overrideAll_eq_none_iff Setting.nodup_all).mp
      (congrArg Prod.snd hoverride)
    exact ⟨⟨entries, hfile, layered_layOver c hfiled.known (fun k => hreadable k k.mem_all)
      (hfiled.below hoverridden)⟩, hcheck⟩
  · intro h
    obtain ⟨⟨entries, hfile, hlayered⟩, hcheck⟩ := h
    obtain ⟨filed, hfiled⟩ := Settings.exists_filed hfile.distinct hlayered.known {}
    have hnone : (filed.override env).2 = none :=
      (Settings.overrideAll_eq_none_iff Setting.nodup_all).mpr fun k _ => hlayered.readable k
    have hoverride : filed.override env = ((filed.override env).1, none) := Prod.ext rfl hnone
    have hoverridden := Settings.overridden_of_overrideAll Setting.nodup_all hoverride
    -- What is built is in layers, and nothing but the given settings is.
    have hall := layered_layOver c hlayered.known hlayered.readable (hfiled.below hoverridden)
    exact ⟨filed, _, base_eq_ok_iff.mpr ⟨entries, hfile, hfiled⟩, hoverride,
      hall.unique hlayered, hcheck⟩

/-- A command line is read exactly if it is pairs of a known option and a value,
    with numbers of their range where they have to be, and then it has the last
    value of each option, whatever that looks like.  Otherwise the first pair
    that cannot be taken is told, or the option that is left over behind pairs
    that can.

    Settings can be had from it exactly if every layer can be read and the
    settings stand the check.  Each of them is then what the command line says,
    or else the environment, or else the file, or else the default; of the
    address the command line replaces the part before or behind the last
    colon. -/
theorem settings_in_layers (args : List String) (fileText : String → Except String String)
    (env : Environment) :
    ((∃ c, read args = .ok c) ↔
      ∃ pairs, args = words pairs ∧ ∀ pair ∈ pairs, Accepted pair.1 pair.2) ∧
    (∀ c, read args = .ok c ↔
      ∃ pairs, args = words pairs ∧ (∀ pair ∈ pairs, Accepted pair.1 pair.2) ∧ Holds pairs c) ∧
    (∀ fault, read args = .error fault ↔
      (∃ pairs option value later, args = words pairs ++ option :: value :: later ∧
        (∀ pair ∈ pairs, Accepted pair.1 pair.2) ∧ Refuses option value fault) ∨
      ∃ pairs option, args = words pairs ++ [option] ∧
        (∀ pair ∈ pairs, Accepted pair.1 pair.2) ∧ fault = .leftover option) ∧
    ∀ c s, read args = .ok c →
      (c.settings fileText env = .ok s ↔
        (∃ entries, FileOf fileText c entries ∧ Layered entries env c s) ∧ s.check = .ok ()) := by
  refine ⟨?_, fun c => read_eq_ok_iff, fun fault => read_eq_error_iff,
    fun c s _ => settings_eq_ok_iff_layered⟩
  constructor
  · intro h
    obtain ⟨c, hread⟩ := h
    obtain ⟨pairs, hargs, haccepted, -⟩ := read_eq_ok_iff.mp hread
    exact ⟨pairs, hargs, haccepted⟩
  · intro h
    obtain ⟨pairs, hargs, haccepted⟩ := h
    obtain ⟨c, hholds⟩ := exists_holds haccepted
    exact ⟨c, read_eq_ok_iff.mpr ⟨pairs, hargs, haccepted, hholds⟩⟩

/-- The first host looks like an option, and the last one has colons.  The port
    comes from the command line, the seconds from the environment although the
    file has them as well, the threads from the file, the limit from the
    defaults. -/
theorem settings_in_layers_of_colons :
    let args := ["-host", "-port", "-port", "+80", "-config", "a", "-config", "b", "-host", "::1"]
    let fileText : String → Except String String := fun path =>
      if path = "b" then
        .ok "etcd_timeout = 9\nhttp_addr = \"[::]:9000\"\nhttp_threads = 2\n"
      else .error "no such file"
    let env : Environment := [("SECKILL_COOKIE_SECRETKEY", "k"), ("SECKILL_ETCD_TIMEOUT", " 7 ")]
    let c : CommandLine := { config := some "b", host := some "::1", port := some 80 }
    let s : Settings :=
      { secret := "k", storeTimeout := 7, httpAddress := "::1:80", httpThreads := 2 }
    read args = .ok c ∧ c.settings fileText env = .ok s ∧
      (∃ pairs, args = words pairs ∧ Holds pairs c) ∧
      ∃ entries, FileOf fileText c entries ∧ Layered entries env c s := by
  intro args fileText env c s
  have hread : read args = .ok c := by decide +kernel
  have hsettings : c.settings fileText env = .ok s := by decide +kernel
  obtain ⟨-, hholds, -, hlayered⟩ := settings_in_layers args fileText env
  obtain ⟨pairs, hargs, -, hpairs⟩ := (hholds c).mp hread
  exact ⟨hread, hsettings, ⟨pairs, hargs, hpairs⟩, ((hlayered c s hread).mp hsettings).1⟩

end CommandLine

end FlashSale
