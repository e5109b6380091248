import FlashSale.Settings.File
import FlashSale.Settings.Override
import FlashSale.Startup.CommandLine
import FlashSale.Text.Split

/-! # The layers of settings

    Settings come from the defaults, then from a file, then from the
    environment, and last from the command line; each layer replaces what the
    ones below it say.  The result has to stand the check. -/

namespace FlashSale

open Text

namespace CommandLine

/-- The two parts of an address, split at its last colon.  Without a colon all
    of it is the host. -/
def splitAddress (address : String) : String × String :=
  match splitLast? ':' address.toList with
  | some (host, port) => (String.ofList host, String.ofList port)
  | none => (address, "9091")

/-- Replaces the parts of the address that are given on the command line. -/
def address (c : CommandLine) (below : String) : String :=
  if c.host.isNone && c.port.isNone then below
  else
    let (host, port) := splitAddress below
    c.host.getD host ++ ":" ++ (c.port.map fun p => natText p.toNat).getD port

/-- Lays the command line over settings. -/
def layOver (c : CommandLine) (s : Settings) : Settings :=
  { s with httpAddress := c.address s.httpAddress, httpThreads := c.threads.getD s.httpThreads }

/-- The settings below the environment: those of the file, if one is named. -/
def base (fileText : String → Except String String) (c : CommandLine) :
    Except Settings.Fault Settings :=
  match c.config with
  | none => .ok {}
  | some path => Settings.load fileText path

/-- The settings of all layers. -/
def settings (fileText : String → Except String String) (env : Environment) (c : CommandLine) :
    Except Settings.Fault Settings :=
  match c.base fileText with
  | .error fault => .error fault
  | .ok s =>
    match s.override env with
    | (_, some fault) => .error fault
    | (s, none) =>
      let s := c.layOver s
      match s.check with
      | .error fault => .error fault
      | .ok () => .ok s

end CommandLine

end FlashSale
