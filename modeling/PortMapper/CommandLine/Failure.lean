import PortMapper.Address.Dotted
import PortMapper.Client
import PortMapper.CommandLine.Options

/-!
# Failures of commands

Why a command was not carried out, with the causes from the nearest to the
farthest, and how that is reported: the failure, and then each cause indented,
with numbers if there are several (`Failure.report`).
-/

namespace PortMapper.CommandLine

/-- Why a command was not carried out. -/
inductive Failure where
  | option (fault : OptionFault)
  | badHost (text : String)
  | badPort (text : String) (fault : NumberFault)
  | portOutOfRange (port : Nat)
  | call (fault : CallFault)
  | refused (name : String) (port : Nat)
  | nothingRegistered (port : Nat)
  | notRegistered (name : String) (kind : PortKind)
  /-- The output cannot be written as JSON. -/
  | notPrintable (reason : String)
deriving DecidableEq, Repr

namespace Failure

/-- The wording of a failure. -/
def message : Failure → String
  | .option (.missingValue name) => s!"{name} requires a value"
  | .option (.badPort _) => "--port must be a number"
  | .option (.badKind _) => "unknown --type"
  | .badHost text => s!"--host must be an IPv4 address, got '{text}'"
  | .badPort text _ => s!"'{text}' is not a port number"
  | .portOutOfRange port => s!"port {port} out of range"
  | .call f => f.message
  | .refused name port =>
    s!"registration of '{name}' at {port} refused (name held by a live process?)"
  | .nothingRegistered port => s!"nothing registered at port {port} under that name and type"
  | .notRegistered name kind => s!"'{name}' is not registered ({kind})"
  | .notPrintable reason => reason

/-- The wording of what caused a failure. -/
def causes : Failure → List String
  | .option (.badPort f) => [f.message]
  | .option (.badKind f) => [f.message]
  | .badHost _ => [Address.invalidText]
  | .badPort _ f => [f.message]
  | .call (.system f) => [f.message]
  | .call (.malformed f) => [f.message]
  | _ => []

/-- A cause with `first` before its first line and `next` before the others. -/
def indent (first next cause : String) : String :=
  first ++ ("\n" ++ next).intercalate ((cause.splitOn "\n"))

/-- The causes as they are written. -/
def renderCauses : List String → List String
  | [] => []
  | [cause] => [indent "    " "    " cause]
  | causes => causes.mapIdx fun i cause =>
    let number := toString i
    indent (String.ofList (List.replicate (5 - number.length) ' ') ++ number ++ ": ") "       "
      cause

/-- A failure with its causes. -/
def report (message : String) (causes : List String) : String :=
  if causes.isEmpty then message
  else message ++ "\n\nCaused by:\n" ++ "\n".intercalate (renderCauses causes)

end Failure

end PortMapper.CommandLine
