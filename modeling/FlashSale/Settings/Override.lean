import FlashSale.Settings.Basic

/-! # Overriding settings from the environment

    A variable that is set replaces the choice of its setting.  The variables
    are read in the order of `Setting.all`; the first one that cannot be read
    ends it, and what was replaced before stays replaced. -/

namespace FlashSale

open Text

/-- The variables of the environment. -/
abbrev Environment := List (String × String)

/-- Reads a number; white space around it does not matter. -/
def Setting.readNumber {α : Type} (read : List Char → Except IntegerFault α) (text : String) :
    Except Settings.Reason α :=
  (read (trim text.toList)).mapError (.badNumber text)

/-- Reads the name of a signature scheme. -/
def Setting.readScheme (text : String) : Except Settings.Reason SignatureScheme :=
  match SignatureScheme.parse? text with
  | some found => .ok found
  | none => .error (.unknownScheme text)

/-- Reads the value of a variable. -/
def Setting.read : (k : Setting) → String → Except Settings.Reason k.Choice
  | .redisAddress, text | .logPath, text => .ok (some text)
  | .storeAddresses, text | .keyPrefix, text | .productKey, text | .logLevel, text
  | .secret, text | .httpAddress, text => .ok text
  | .storeTimeout, text => readNumber readUInt64 text
  | .scheme, text => readScheme text
  | .accessLimit, text | .httpThreads, text | .maxRetries, text => readNumber readUInt32 text

namespace Settings

/-- Overrides some settings in turn.  The settings come back as far as they
    were replaced, with the fault that ended it. -/
def overrideAll (env : Environment) : List Setting → Settings → Settings × Option Fault
  | [], s => (s, none)
  | k :: rest, s =>
    match env.lookup k.variableName with
    | none => overrideAll env rest s
    | some text =>
      match k.read text with
      | .error reason => (s, some (.invalid k reason))
      | .ok value => overrideAll env rest (s.set k value)

/-- Overrides settings from the environment. -/
def override (env : Environment) (s : Settings) : Settings × Option Fault :=
  s.overrideAll env Setting.all

end Settings

end FlashSale
