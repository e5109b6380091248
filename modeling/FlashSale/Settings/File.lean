import FlashSale.Settings.Basic
import FlashSale.Toml.Reader

/-! # Settings from a file

    A file of settings is a TOML document whose names are all known and whose
    values have the right kind; nothing is converted.  What it does not name
    keeps its default. -/

namespace FlashSale

open Text

namespace Setting

/-- A text. -/
def textOf? : Toml.Value → Option String
  | .string s => some s
  | _ => none

/-- An integer of 64 bits without sign. -/
def uint64Of? : Toml.Value → Option UInt64
  | .integer i => if 0 ≤ i then some i.toUInt64 else none
  | _ => none

/-- An integer of 32 bits without sign. -/
def uint32Of? (v : Toml.Value) : Option UInt32 :=
  (uint64Of? v).bind fun n =>
    if n.toNat < UInt32.size then some (UInt32.ofNat n.toNat) else none

/-- Is this a value that says nothing: a table or an array without content? -/
def isVoid : Toml.Value → Bool
  | .table _ [] | .array [] => true
  | _ => false

/-- A signature scheme: its name, or a table with its name as the only
    entry. -/
def schemeOf? : Toml.Value → Option SignatureScheme
  | .string s => SignatureScheme.ofName? s
  | .table _ [(name, v)] => if isVoid v then SignatureScheme.ofName? name else none
  | _ => none

/-- Reads the value of an entry. -/
def ofToml? : (k : Setting) → Toml.Value → Option k.Choice
  | .redisAddress, v | .logPath, v => (textOf? v).map some
  | .storeAddresses, v | .keyPrefix, v | .productKey, v | .logLevel, v | .secret, v
  | .httpAddress, v => textOf? v
  | .storeTimeout, v => uint64Of? v
  | .scheme, v => schemeOf? v
  | .accessLimit, v | .httpThreads, v | .maxRetries, v => uint32Of? v

end Setting

namespace Settings

/-- Takes over one entry of a file. -/
def setEntry? (s : Settings) (entry : String × Toml.Value) : Option Settings := do
  let k ← Setting.ofName? entry.1
  let value ← k.ofToml? entry.2
  return s.set k value

/-- The settings of a document. -/
def parse? (text : String) : Option Settings := do
  let entries ← Toml.parse? text
  entries.foldlM setEntry? {}

/-- The settings of a file.  `fileText` gives its text, or tells why it cannot be
    read. -/
def load (fileText : String → Except String String) (path : String) : Except Fault Settings :=
  match fileText path with
  | .error cause => .error (.unreadable path cause)
  | .ok text =>
    match parse? text with
    | none => .error .malformed
    | some s => .ok s

end Settings

end FlashSale
