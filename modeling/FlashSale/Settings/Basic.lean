import FlashSale.Signature
import FlashSale.Text.Blank

/-! # Settings

    What an operator can choose about a gateway.  Each setting has a name, used
    in files and in faults, and a variable of the environment that overrides
    it; the list `Setting.all` fixes the order in which variables are read. -/

namespace FlashSale

open Text

/-! ### Names -/

/-- One thing that can be chosen. -/
inductive Setting where
  | redisAddress
  | storeAddresses
  | keyPrefix
  | productKey
  | storeTimeout
  | logPath
  | logLevel
  | secret
  | scheme
  | accessLimit
  | httpAddress
  | httpThreads
  | maxRetries
  deriving Repr, DecidableEq

namespace Setting

/-- Every setting, in the order in which variables override them. -/
def all : List Setting :=
  [.redisAddress, .storeAddresses, .keyPrefix, .productKey, .storeTimeout, .logPath, .logLevel,
    .secret, .scheme, .accessLimit, .httpAddress, .httpThreads, .maxRetries]

/-- The name of a setting in files and faults. -/
def name : Setting → String
  | .redisAddress => "redis_addr"
  | .storeAddresses => "etcd_addr"
  | .keyPrefix => "etcd_sec_key_prefix"
  | .productKey => "etcd_product_key"
  | .storeTimeout => "etcd_timeout"
  | .logPath => "log_path"
  | .logLevel => "log_level"
  | .secret => "cookie_secretkey"
  | .scheme => "cookie_sign_algorithm"
  | .accessLimit => "user_sec_access_limit"
  | .httpAddress => "http_addr"
  | .httpThreads => "http_threads"
  | .maxRetries => "watch_max_retries"

/-- The setting with a name. -/
def ofName? (name : String) : Option Setting :=
  all.find? fun k => k.name == name

/-- The variable that overrides a setting. -/
def variableName (k : Setting) : String :=
  "SECKILL_" ++ String.ofList (k.name.toList.map Char.toUpper)

/-- What can be chosen for a setting. -/
@[reducible] def Choice : Setting → Type
  | .redisAddress | .logPath => Option String
  | .storeAddresses | .keyPrefix | .productKey | .logLevel | .secret | .httpAddress => String
  | .storeTimeout => UInt64
  | .scheme => SignatureScheme
  | .accessLimit | .httpThreads | .maxRetries => UInt32

end Setting

/-! ### Values -/

/-- A choice for every setting; the defaults are those of a new
    installation. -/
structure Settings where
  /-- The address of a database that the gateway does not use. -/
  redisAddress : Option String := none
  /-- The endpoints of the store, with commas between them. -/
  storeAddresses : String := "127.0.0.1:2379"
  /-- What the watched key starts with. -/
  keyPrefix : String := "/seckill/"
  /-- What the watched key ends with. -/
  productKey : String := "product"
  /-- How many seconds a question to the store may take. -/
  storeTimeout : UInt64 := 5
  /-- The file to log to. -/
  logPath : Option String := none
  /-- Which log lines are written. -/
  logLevel : String := "info"
  /-- The secret behind user signatures. -/
  secret : String := ""
  /-- How users sign. -/
  scheme : SignatureScheme := .default
  /-- How many attempts a user has per second. -/
  accessLimit : UInt32 := 1
  /-- Where to listen. -/
  httpAddress : String := "127.0.0.1:9091"
  /-- How many requests are served at a time. -/
  httpThreads : UInt32 := 16
  /-- How often the watcher tries to come back. -/
  maxRetries : UInt32 := 30
  deriving DecidableEq

namespace Settings

/-- What is chosen for a setting. -/
def get (s : Settings) : (k : Setting) → k.Choice
  | .redisAddress => s.redisAddress
  | .storeAddresses => s.storeAddresses
  | .keyPrefix => s.keyPrefix
  | .productKey => s.productKey
  | .storeTimeout => s.storeTimeout
  | .logPath => s.logPath
  | .logLevel => s.logLevel
  | .secret => s.secret
  | .scheme => s.scheme
  | .accessLimit => s.accessLimit
  | .httpAddress => s.httpAddress
  | .httpThreads => s.httpThreads
  | .maxRetries => s.maxRetries

/-- Chooses anew for one setting. -/
def set (s : Settings) : (k : Setting) → k.Choice → Settings
  | .redisAddress, v => { s with redisAddress := v }
  | .storeAddresses, v => { s with storeAddresses := v }
  | .keyPrefix, v => { s with keyPrefix := v }
  | .productKey, v => { s with productKey := v }
  | .storeTimeout, v => { s with storeTimeout := v }
  | .logPath, v => { s with logPath := v }
  | .logLevel, v => { s with logLevel := v }
  | .secret, v => { s with secret := v }
  | .scheme, v => { s with scheme := v }
  | .accessLimit, v => { s with accessLimit := v }
  | .httpAddress, v => { s with httpAddress := v }
  | .httpThreads, v => { s with httpThreads := v }
  | .maxRetries, v => { s with maxRetries := v }

/-! ### Derived values -/

/-- The endpoints of the store, in the order in which they are tried: the
    pieces between commas, without white space around them, the blank ones left
    out. -/
def endpoints (s : Settings) : List String :=
  (((s.storeAddresses.toList.splitOn ',').map trim).filter fun piece => !piece.isEmpty).map
    String.ofList

/-- The key whose value is the catalogue.  A slash is put between its two parts
    unless the first one ends with one; slashes at the start of the second part
    are dropped. -/
def watchedKey (s : Settings) : String :=
  let start := s.keyPrefix.toList
  let slash := if start.getLast? = some '/' then [] else ['/']
  String.ofList (start ++ slash ++ s.productKey.toList.dropWhile (· == '/'))

/-! ### Faults -/

/-- Why a choice cannot be used. -/
inductive Reason where
  | badNumber (text : String) (fault : IntegerFault)
  | unknownScheme (text : String)
  | noRequests
  | noTime
  | noThreads
  deriving Repr, DecidableEq

/-- The wording of a reason. -/
def Reason.message : Reason → String
  | .badNumber text fault => "`" ++ text ++ "`: " ++ fault.message
  | .unknownScheme text => "unknown algorithm `" ++ text ++ "`"
  | .noRequests => "must allow at least one request per second"
  | .noTime => "must be at least one second"
  | .noThreads => "must be at least one"

/-- Why settings cannot be had or cannot be used. -/
inductive Fault where
  /-- The file could not be read, for the reason given by the system. -/
  | unreadable (path : String) (cause : String)
  /-- The file is no document of settings. -/
  | malformed
  | missing (k : Setting)
  | invalid (k : Setting) (reason : Reason)
  deriving Repr, DecidableEq

/-- The wording of a fault. -/
def Fault.message : Fault → String
  | .unreadable path cause => "cannot read " ++ path ++ ": " ++ cause
  | .malformed => "malformed configuration"
  | .missing k => "missing required setting `" ++ k.name ++ "`"
  | .invalid k reason => "invalid setting `" ++ k.name ++ "`: " ++ reason.message

/-! ### Checking -/

/-- Refuses settings a gateway cannot run with.  Of several faults the first in
    the order below is reported. -/
def check (s : Settings) : Except Fault Unit :=
  if s.endpoints.isEmpty then .error (.missing .storeAddresses)
  else if (s.productKey.toList.dropWhile (· == '/')).isEmpty then .error (.missing .productKey)
  else if s.secret.isEmpty then .error (.missing .secret)
  else if s.accessLimit = 0 then .error (.invalid .accessLimit .noRequests)
  else if s.storeTimeout = 0 then .error (.invalid .storeTimeout .noTime)
  else if s.httpThreads = 0 then .error (.invalid .httpThreads .noThreads)
  else .ok ()

end Settings

end FlashSale
