import FlashSale.Text.Decimal

/-! # The command line

    The command line is a list of options, each followed by its value.  Of two
    values for one option the last one counts. -/

namespace FlashSale

open Text

/-- The values given on the command line. -/
structure CommandLine where
  config : Option String := none
  host : Option String := none
  port : Option UInt16 := none
  threads : Option UInt32 := none
  deriving Repr, DecidableEq

namespace CommandLine

/-- Why a command line is refused. -/
inductive Fault where
  | unknown (option : String)
  /-- The last option has no value. -/
  | leftover (option : String)
  | badPort (fault : IntegerFault)
  | badThreads (fault : IntegerFault)
  deriving Repr, DecidableEq

/-- The wording of a fault. -/
def Fault.message : Fault → String
  | .unknown option => "unknown option " ++ option
  | .leftover option => "leftover option " ++ option
  | .badPort _ => "-port takes a decimal u16"
  | .badThreads _ => "-threads takes a decimal u32"

/-- What lies behind a fault. -/
def Fault.cause? : Fault → Option String
  | .unknown _ | .leftover _ => none
  | .badPort fault | .badThreads fault => some fault.message

/-- Takes one option with its value. -/
def set (c : CommandLine) (option value : String) : Except Fault CommandLine :=
  if option = "-config" then .ok { c with config := some value }
  else if option = "-host" then .ok { c with host := some value }
  else if option = "-port" then
    match readUInt16 value.toList with
    | .ok port => .ok { c with port := some port }
    | .error fault => .error (.badPort fault)
  else if option = "-threads" then
    match readUInt32 value.toList with
    | .ok threads => .ok { c with threads := some threads }
    | .error fault => .error (.badThreads fault)
  else .error (.unknown option)

/-- Takes options from the left. -/
def readFrom (c : CommandLine) : List String → Except Fault CommandLine
  | [] => .ok c
  | [option] => .error (.leftover option)
  | option :: value :: rest =>
    match c.set option value with
    | .error fault => .error fault
    | .ok c => readFrom c rest

/-- Reads a command line. -/
def read (args : List String) : Except Fault CommandLine :=
  readFrom {} args

end CommandLine

end FlashSale
