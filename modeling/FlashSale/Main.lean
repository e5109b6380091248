import FlashSale.Startup.Start

/-! # The command line

    The program reads its arguments, its environment and its file of settings,
    and starts the server.  It is not connected to a network: a question to the
    store stays without an answer, and no address can be listened on. -/

namespace FlashSale

/-- The variables that a start looks at. -/
def variableNames : List String :=
  LogFilter.variableName :: Setting.all.map Setting.variableName

/-- The variables of the environment that are set. -/
def readEnvironment : IO Environment := do
  let values ← variableNames.mapM fun name => do
    return (← IO.getEnv name).map fun value => (name, value)
  return values.filterMap id

/-- Why a file cannot be read.  The system tells a directory and a path with
    U+0000 by positive codes. -/
def faultText : IO.Error → String
  | .noFileOrDirectory _ _ _ => FileFault.missing.message
  | .inappropriateType _ code _ =>
    (if code = 21 then FileFault.isDirectory else FileFault.notDirectory).message
  | .invalidArgument _ code _ =>
    (if code = 22 then FileFault.zeroInName else FileFault.nameTooLong).message
  | .permissionDenied _ _ _ => FileFault.denied.message
  | e => toString e

/-- The text of a file, or why it cannot be read. -/
def readText (path : String) : IO (Except String String) := do
  try
    return .ok (← IO.FS.readFile path)
  catch e => return .error (faultText e)

/-- The file of settings that a command line names, with its text. -/
def readSettingsFile (args : List String) : IO (List (String × Except String String)) := do
  match CommandLine.read args with
  | .ok { config := some path, .. } => return [(path, ← readText path)]
  | _ => return []

/-- Writes the lines of a start to the console, or adds them to the file of the
    log; tells whether that could be done. -/
def writeLog (report : StartReport) : IO Bool := do
  let text := String.join (report.log.map fun line => line.text ++ "\n")
  match report.logPath with
  | none => do
    IO.eprint text
    return true
  | some path =>
    try
      let handle ← IO.FS.Handle.mk path .append
      handle.putStr text
      return true
    catch _ => return false

/-- Tells the fault that ended a start. -/
def printFault (fault : StartFault) : IO Unit := do
  IO.eprintln ("Error: " ++ fault.message)
  match fault.cause? with
  | none => return ()
  | some cause => IO.eprintln ("\nCaused by:\n    " ++ cause)

end FlashSale

open FlashSale in
/-- Starts the server; the exit code tells whether it started. -/
def main (args : List String) : IO UInt32 := do
  let env ← readEnvironment
  let files ← readSettingsFile args
  let machine (canAppend : Bool) : Machine :=
    { args, env
      fileText := fun path => (files.lookup path).getD (.error "")
      canAppend := fun _ => canAppend
      network := fun _ => none
      listen := fun _ => .error "Network is unreachable (os error 101)" }
  let report := startServer (machine true)
  let report := if ← writeLog report then report else startServer (machine false)
  match report.result with
  | .ready _ => pure ()
  | .refused fault => printFault fault
  | .crashed crash => IO.eprintln crash.trace
  return report.result.exitCode
