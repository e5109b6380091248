import FlashSale.Gateway.Launch
import FlashSale.Startup.FileTree
import FlashSale.Startup.Layers
import FlashSale.Startup.LogFilter
import FlashSale.Store.Etcd.Client
import FlashSale.Text.Quoted

/-! # Starting the server

    The server starts in stages: command line, settings, log, gateway, and last
    the address to listen on.  The first stage that fails ends it.  Two things
    that nobody should ask for make it crash instead, without a message.  What
    the machine around it would do is a parameter, so starting is a function. -/

namespace FlashSale

open Text

/-- The machine that the server starts on. -/
structure Machine where
  args : List String
  env : Environment
  /-- The text of a file, or why it cannot be read. -/
  fileText : String → Except String String
  /-- Can a file be opened to add to it? -/
  canAppend : String → Bool
  network : Etcd.Network
  /-- Whether an address can be listened on, or why not. -/
  listen : String → Except String Unit

/-! ### Faults -/

/-- Why the server does not start. -/
inductive StartFault where
  | commandLine (fault : CommandLine.Fault)
  | settings (fault : Settings.Fault)
  | badFilter (text : String)
  | logFile (path : String)
  | client (error : StoreError)
  | launch (error : LaunchError)
  | listen (address : String) (cause : String)
  deriving Repr, DecidableEq

namespace StartFault

/-- The wording of a fault. -/
def message : StartFault → String
  | .commandLine fault => fault.message
  | .settings fault => fault.message
  | .badFilter text => "invalid log_level `" ++ text ++ "`"
  | .logFile path => "cannot open log file " ++ path
  | .client _ => "cannot set up the etcd client"
  | .launch error => error.message
  | .listen address cause => "cannot listen on " ++ address ++ ": " ++ cause

/-- What lies behind a fault, if it is told apart from it. -/
def cause? : StartFault → Option String
  | .commandLine fault => fault.cause?
  | .client error => some error.message
  | .settings _ | .badFilter _ | .logFile _ | .launch _ | .listen _ _ => none

end StartFault

/-- Why the server crashes. -/
inductive Crash where
  /-- A word of the log filter begins or ends within a character. -/
  | tornFilter
  /-- The time that the store is given goes beyond what a clock can show. -/
  | timeoutBeyondClock
  deriving Repr, DecidableEq

/-- What a crash leaves on the console. -/
def Crash.trace : Crash → String
  | .tornFilter => "crashed: a word of the log filter is torn"
  | .timeoutBeyondClock => "crashed: the time for the store goes beyond the clock"

/-- How a start ends. -/
inductive StartEnd where
  | ready (gateway : Gateway)
  | refused (fault : StartFault)
  | crashed (crash : Crash)

namespace StartEnd

/-- The code that the program exits with. -/
def exitCode : StartEnd → UInt32
  | .ready _ => 0
  | .refused _ => 1
  | .crashed _ => 101

/-- The fault that is told. -/
def fault? : StartEnd → Option StartFault
  | .refused fault => some fault
  | .ready _ | .crashed _ => none

end StartEnd

/-! ### The log -/

/-- The lines that are logged while the server starts. -/
inductive StartLine where
  | starting (s : Settings)
  | bootstrapped (key : String) (revision : Int64) (products : Nat)
  | redisUnused (address : String)
  deriving DecidableEq

namespace StartLine

/-- The text of a line. -/
def text : StartLine → String
  | .starting s =>
    "starting etcd=" ++ s.storeAddresses ++ " key=" ++ s.watchedKey ++ " limit=" ++
      natText s.accessLimit.toNat ++ " algorithm=" ++ s.scheme.label
  | .bootstrapped key revision products =>
    "bootstrapped product registry key=" ++ quoted key ++ " revision=" ++ intText revision.toInt ++
      " products=" ++ natText products
  | .redisUnused address =>
    "redis address configured, not used by the gateway redis_addr=" ++ address

/-- The part of the program that a line comes from. -/
def target : StartLine → String
  | .starting _ => "seckill_server"
  | .bootstrapped _ _ _ | .redisUnused _ => "seckill_gateway"

/-- The names of the fields of a line. -/
def fields : StartLine → List String
  | .starting _ => ["message", "etcd", "key", "limit", "algorithm"]
  | .bootstrapped _ _ _ => ["message", "key", "revision", "products"]
  | .redisUnused _ => ["message", "redis_addr"]

/-- The line as a filter lets it pass. -/
def filtered (f : LogFilter) (line : StartLine) : Option StartLine :=
  if f.passes .info line.target line.fields then some line else none

end StartLine

/-! ### Starting -/

/-- What came of starting, and what was done on the way. -/
structure StartReport where
  result : StartEnd
  /-- The lines that were written. -/
  log : List StartLine := []
  /-- The file they were written to, if not to the console. -/
  logPath : Option String := none
  /-- The questions that were put to the store. -/
  requests : List Etcd.Request := []

namespace StartReport

/-- The report of a start that failed before anything was done. -/
def refused (fault : StartFault) : StartReport :=
  { result := .refused fault }

end StartReport

/-- Checks the form of an address before the machine is asked to listen on
    it. -/
def listenOn (m : Machine) (address : String) : Except String Unit :=
  match splitLast? ':' address.toList with
  | none => .error "invalid socket address"
  | some (host, port) =>
    match readUInt16 port with
    | .error _ => .error "invalid port value"
    | .ok _ =>
      if host.contains '\x00' then .error FileFault.zeroInName.message else m.listen address

/-- The lines about a launch. -/
def launchLines (s : Settings) (revision : Int64) (g : Gateway) : List StartLine :=
  .bootstrapped s.watchedKey revision g.catalogue.size :: s.redisAddress.toList.map .redisUnused

/-- The last second that a clock can show. -/
def lastSecond : Nat := Int64.size / 2 - 1

/-- Is the time that the store is given beyond what the clock can show?  The
    clock has been running for about a day; the store is asked for the first time
    at an endpoint that has an address. -/
def exceedsClock (s : Settings) (client : Etcd.Client) : Bool :=
  lastSecond < s.storeTimeout.toNat + 24 * 60 * 60 &&
    client.endpoints.any fun endpoint =>
      (Etcd.rangeRequest s.watchedKey endpoint).url?.isSome

/-- Launches the gateway and listens; the log is open. -/
def startGateway (m : Machine) (s : Settings) (filter : LogFilter) : StartReport :=
  let write (lines : List StartLine) := lines.filterMap (·.filtered filter)
  let begun : List StartLine := [.starting s]
  let stopped (result : StartEnd) : StartReport :=
    { result, log := write begun, logPath := s.logPath }
  match Etcd.Client.ofEndpoints s.endpoints with
  | .error e => stopped (.refused (.client e))
  | .ok client =>
    if exceedsClock s client then stopped (.crashed .timeoutBeyondClock)
    else
      let (answer, requests) := client.get m.network s.watchedKey
      match Gateway.launch (m := Id) (fun _ => answer) s with
      | .error e => { stopped (.refused (.launch e)) with requests }
      | .ok gateway =>
        let revision := match answer with
          | .ok fetched => fetched.revision
          | .error _ => 0
        let log := write (begun ++ launchLines s revision gateway)
        let result : StartEnd := match listenOn m s.httpAddress with
          | .error cause => .refused (.listen s.httpAddress cause)
          | .ok () => .ready gateway
        { result, log, logPath := s.logPath, requests }

/-- Starts the server. -/
def startServer (m : Machine) : StartReport :=
  match CommandLine.read m.args with
  | .error fault => .refused (.commandLine fault)
  | .ok commandLine =>
    match commandLine.settings m.fileText m.env with
    | .error fault => .refused (.settings fault)
    | .ok s =>
      match LogFilter.choose (m.env.lookup LogFilter.variableName) s.logLevel with
      | .error .malformed => .refused (.badFilter s.logLevel)
      | .error .torn => { result := .crashed .tornFilter }
      | .ok filter =>
        match s.logPath with
        | none => startGateway m s filter
        | some path =>
          if m.canAppend path then startGateway m s filter else .refused (.logFile path)

end FlashSale
