import FlashSale.Proofs.Text.Decimal
import FlashSale.Startup.CommandLine

/-! # Options and their values

    A command line comes apart into pairs from the left, so a value is never
    taken for an option, whatever it looks like.  It is read if every pair can
    be taken and no option is left over at the end, and then each option has
    the last of its values.  Otherwise the first pair that cannot be taken is
    told, or the option that is left over. -/

namespace FlashSale.CommandLine

open Text

/-! ### Pairs -/

/-- The command line that pairs of an option and a value make. -/
def words (pairs : List (String × String)) : List String :=
  pairs.flatMap fun pair => [pair.1, pair.2]

@[simp] theorem words_cons (option value : String) (pairs : List (String × String)) :
    words ((option, value) :: pairs) = option :: value :: words pairs := rfl

/-- The option is a known one, and its value is a number of its range if it has
    to be one. -/
structure Accepted (option value : String) : Prop where
  known : option ∈ ["-config", "-host", "-port", "-threads"]
  port : option = "-port" → ∃ n < UInt16.size, numeral? value.toList = some n
  threads : option = "-threads" → ∃ n < UInt32.size, numeral? value.toList = some n

/-- What a pair that can be taken makes of the options so far. -/
inductive Takes (c : CommandLine) : String → String → CommandLine → Prop
  | config (value : String) : Takes c "-config" value { c with config := some value }
  | host (value : String) : Takes c "-host" value { c with host := some value }
  | port {value : String} {n : UInt16} (number : numeral? value.toList = some n.toNat) :
    Takes c "-port" value { c with port := some n }
  | threads {value : String} {n : UInt32} (number : numeral? value.toList = some n.toNat) :
    Takes c "-threads" value { c with threads := some n }

/-- Why a pair cannot be taken. -/
inductive Refuses : String → String → Fault → Prop
  | unknown {option value : String} (unknown : option ∉ ["-config", "-host", "-port", "-threads"]) :
    Refuses option value (.unknown option)
  | port {value : String} {fault : IntegerFault}
    (bad : readNatural (UInt16.size - 1) value.toList = .error fault) :
    Refuses "-port" value (.badPort fault)
  | threads {value : String} {fault : IntegerFault}
    (bad : readNatural (UInt32.size - 1) value.toList = .error fault) :
    Refuses "-threads" value (.badThreads fault)

variable {c next : CommandLine} {option value : String} {fault : Fault}
  {args : List String} {pairs before : List (String × String)}

theorem set_eq_ok_iff : c.set option value = .ok next ↔ Takes c option value next := by
  constructor
  · intro h
    unfold set at h
    split at h
    · next his =>
      subst his
      obtain rfl := Except.ok.inj h
      exact .config value
    split at h
    · next his =>
      subst his
      obtain rfl := Except.ok.inj h
      exact .host value
    split at h
    · next his =>
      subst his
      split at h
      · next n hread =>
        obtain rfl := Except.ok.inj h
        exact .port (readUInt16_eq_ok_iff.mp hread)
      · cases h
    split at h
    · next his =>
      subst his
      split at h
      · next n hread =>
        obtain rfl := Except.ok.inj h
        exact .threads (readUInt32_eq_ok_iff.mp hread)
      · cases h
    · cases h
  · intro h
    cases h with
    | config => rfl
    | host => rfl
    | port hnumber => simp [set, readUInt16_eq_ok_iff.mpr hnumber]
    | threads hnumber => simp [set, readUInt32_eq_ok_iff.mpr hnumber]

theorem set_eq_error_iff : c.set option value = .error fault ↔ Refuses option value fault := by
  constructor
  · intro h
    unfold set at h
    split at h
    · cases h
    next hconfig =>
    split at h
    · cases h
    next hhost =>
    split at h
    · next his =>
      subst his
      split at h
      · cases h
      · next fault hread =>
        obtain rfl := Except.error.inj h
        exact .port (map_eq_error_iff.mp hread)
    next hport =>
    split at h
    · next his =>
      subst his
      split at h
      · cases h
      · next fault hread =>
        obtain rfl := Except.error.inj h
        exact .threads (map_eq_error_iff.mp hread)
    next hthreads =>
    obtain rfl := Except.error.inj h
    exact .unknown (by simp [hconfig, hhost, hport, hthreads])
  · intro h
    cases h with
    | unknown hunknown =>
      simp only [List.mem_cons, List.not_mem_nil, or_false, not_or] at hunknown
      simp [set, hunknown]
    | port hbad =>
      have hread := map_eq_error_iff (f := UInt16.ofNat) |>.mpr hbad
      simp only [set, readUInt16, hread]
      rfl
    | threads hbad =>
      have hread := map_eq_error_iff (f := UInt32.ofNat) |>.mpr hbad
      simp only [set, readUInt32, hread]
      rfl

theorem Takes.accepted (h : Takes c option value next) : Accepted option value := by
  cases h with
  | config => exact ⟨by simp, nofun, nofun⟩
  | host => exact ⟨by simp, nofun, nofun⟩
  | port hnumber => exact ⟨by simp, fun _ => ⟨_, UInt16.toNat_lt_size _, hnumber⟩, nofun⟩
  | threads hnumber => exact ⟨by simp, nofun, fun _ => ⟨_, UInt32.toNat_lt_size _, hnumber⟩⟩

theorem Refuses.not_accepted (h : Refuses option value fault) : ¬Accepted option value := by
  intro haccepted
  cases h with
  | unknown hunknown => exact hunknown haccepted.known
  | port hbad =>
    obtain ⟨n, hlt, hn⟩ := haccepted.port rfl
    rw [readNatural_eq_ok_iff.mpr ⟨hn, by omega⟩] at hbad
    cases hbad
  | threads hbad =>
    obtain ⟨n, hlt, hn⟩ := haccepted.threads rfl
    rw [readNatural_eq_ok_iff.mpr ⟨hn, by omega⟩] at hbad
    cases hbad

/-- A pair is taken or refused. -/
theorem takes_or_refuses (c : CommandLine) (option value : String) :
    (∃ next, Takes c option value next) ∨ ∃ fault, Refuses option value fault := by
  cases hset : c.set option value with
  | ok next => exact .inl ⟨next, set_eq_ok_iff.mp hset⟩
  | error fault => exact .inr ⟨fault, set_eq_error_iff.mp hset⟩

/-! ### One pair after the other -/

/-- The command line has the last value of each option, and for a number what
    the value spells. -/
structure Holds (pairs : List (String × String)) (c : CommandLine) : Prop where
  config : c.config = pairs.reverse.lookup "-config"
  host : c.host = pairs.reverse.lookup "-host"
  port : c.port.map UInt16.toNat =
    (pairs.reverse.lookup "-port").bind fun value => numeral? value.toList
  threads : c.threads.map UInt32.toNat =
    (pairs.reverse.lookup "-threads").bind fun value => numeral? value.toList

/-- One more pair gives its option a new last value, and no other. -/
theorem Holds.takes (h : Holds pairs c) (htakes : Takes c option value next) :
    Holds (pairs ++ [(option, value)]) next := by
  obtain ⟨hconfig, hhost, hport, hthreads⟩ := h
  cases htakes with
  | config | host => constructor <;> simp [List.lookup_cons, *]
  | port hnumber | threads hnumber => constructor <;> simp [List.lookup_cons, *]

/-- Nothing else has them. -/
theorem Holds.unique {d : CommandLine} (h : Holds pairs c) (hd : Holds pairs d) : c = d := by
  obtain ⟨config, host, port, threads⟩ := c
  obtain ⟨config', host', port', threads'⟩ := d
  have hport : port = port' := Option.map_injective
    (fun _ _ => UInt16.toNat_inj.mp) (h.port.trans hd.port.symm)
  have hthreads : threads = threads' := Option.map_injective
    (fun _ _ => UInt32.toNat_inj.mp) (h.threads.trans hd.threads.symm)
  have hconfig : config = config' := h.config.trans hd.config.symm
  have hhost : host = host' := h.host.trans hd.host.symm
  rw [hconfig, hhost, hport, hthreads]

/-- Pairs that can all be taken are taken before what follows them. -/
theorem exists_readFrom_append (h : Holds before c)
    (hpairs : ∀ pair ∈ pairs, Accepted pair.1 pair.2) :
    ∃ next, Holds (before ++ pairs) next ∧
      ∀ rest, readFrom c (words pairs ++ rest) = readFrom next rest := by
  induction pairs generalizing before c with
  | nil => exact ⟨c, by rwa [List.append_nil], fun _ => rfl⟩
  | cons pair pairs ih =>
    obtain ⟨option, value⟩ := pair
    obtain ⟨haccepted, hothers⟩ := List.forall_mem_cons.mp hpairs
    rcases takes_or_refuses c option value with ⟨next, htakes⟩ | ⟨fault, hrefuses⟩
    · obtain ⟨last, hlast, hread⟩ := ih (h.takes htakes) hothers
      refine ⟨last, by rwa [List.append_assoc] at hlast, fun rest => ?_⟩
      rw [words_cons, List.cons_append, List.cons_append, readFrom, set_eq_ok_iff.mpr htakes]
      exact hread rest
    · exact absurd haccepted hrefuses.not_accepted

/-- Pairs that can be taken stand in front, and behind them stands nothing, or a
    pair that cannot be taken, or one option. -/
theorem words_cases (args : List String) :
    ∃ pairs rest, args = words pairs ++ rest ∧ (∀ pair ∈ pairs, Accepted pair.1 pair.2) ∧
      (rest = [] ∨ (∃ option, rest = [option]) ∨
        ∃ option value later fault, rest = option :: value :: later ∧
          Refuses option value fault) := by
  match args with
  | [] => exact ⟨[], [], rfl, nofun, .inl rfl⟩
  | [option] => exact ⟨[], [option], rfl, nofun, .inr (.inl ⟨option, rfl⟩)⟩
  | option :: value :: later =>
    -- Whether the pair can be taken does not depend on the options before it.
    rcases takes_or_refuses {} option value with ⟨next, htakes⟩ | ⟨fault, hrefuses⟩
    · obtain ⟨pairs, rest, rfl, haccepted, hrest⟩ := words_cases later
      exact ⟨(option, value) :: pairs, rest, rfl,
        List.forall_mem_cons.mpr ⟨htakes.accepted, haccepted⟩, hrest⟩
    · exact ⟨[], option :: value :: later, rfl, nofun,
        .inr (.inr ⟨option, value, later, fault, rfl, hrefuses⟩)⟩

/-- The options before the first pair. -/
theorem holds_nil : Holds [] {} := ⟨rfl, rfl, rfl, rfl⟩

/-- Pairs that can all be taken have last values. -/
theorem exists_holds (h : ∀ pair ∈ pairs, Accepted pair.1 pair.2) : ∃ c, Holds pairs c := by
  obtain ⟨c, hholds, -⟩ := exists_readFrom_append holds_nil h
  exact ⟨c, hholds⟩

/-- A command line is read exactly if it is pairs that can all be taken. -/
theorem read_eq_ok_iff :
    read args = .ok c ↔
      ∃ pairs, args = words pairs ∧ (∀ pair ∈ pairs, Accepted pair.1 pair.2) ∧ Holds pairs c := by
  constructor
  · intro h
    obtain ⟨pairs, rest, rfl, haccepted, hrest⟩ := words_cases args
    obtain ⟨next, hholds, hread⟩ := exists_readFrom_append holds_nil haccepted
    rw [read, hread] at h
    rcases hrest with rfl | ⟨option, rfl⟩ | ⟨option, value, later, fault, rfl, hrefuses⟩
    · obtain rfl := Except.ok.inj h
      exact ⟨pairs, List.append_nil _, haccepted, hholds⟩
    · cases h
    · rw [readFrom, set_eq_error_iff.mpr hrefuses] at h
      cases h
  · intro h
    obtain ⟨pairs, rfl, haccepted, hholds⟩ := h
    obtain ⟨next, hnext, hread⟩ := exists_readFrom_append holds_nil haccepted
    have hall := hread []
    rw [List.append_nil] at hall
    rw [read, hall, hholds.unique hnext]
    rfl

/-- Otherwise it tells the first pair that cannot be taken, or the option that is
    left over behind pairs that can. -/
theorem read_eq_error_iff :
    read args = .error fault ↔
      (∃ pairs option value later, args = words pairs ++ option :: value :: later ∧
        (∀ pair ∈ pairs, Accepted pair.1 pair.2) ∧ Refuses option value fault) ∨
      ∃ pairs option, args = words pairs ++ [option] ∧
        (∀ pair ∈ pairs, Accepted pair.1 pair.2) ∧ fault = .leftover option := by
  constructor
  · intro h
    obtain ⟨pairs, rest, rfl, haccepted, hrest⟩ := words_cases args
    obtain ⟨next, hholds, hread⟩ := exists_readFrom_append holds_nil haccepted
    rw [read, hread] at h
    rcases hrest with rfl | ⟨option, rfl⟩ | ⟨option, value, later, found, rfl, hrefuses⟩
    · cases h
    · obtain rfl := Except.error.inj h
      exact .inr ⟨pairs, option, rfl, haccepted, rfl⟩
    · rw [readFrom, set_eq_error_iff.mpr hrefuses] at h
      obtain rfl := Except.error.inj h
      exact .inl ⟨pairs, option, value, later, rfl, haccepted, hrefuses⟩
  · intro h
    rcases h with ⟨pairs, option, value, later, rfl, haccepted, hrefuses⟩ |
      ⟨pairs, option, rfl, haccepted, rfl⟩
    · obtain ⟨next, -, hread⟩ := exists_readFrom_append holds_nil haccepted
      rw [read, hread, readFrom, set_eq_error_iff.mpr hrefuses]
    · obtain ⟨next, -, hread⟩ := exists_readFrom_append holds_nil haccepted
      rw [read, hread]
      rfl

end FlashSale.CommandLine
