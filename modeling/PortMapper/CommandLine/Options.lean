import PortMapper.Decimal
import PortMapper.MessageFault

/-!
# Options

The arguments of a command line are options, which may stand anywhere and of
which the last of a kind counts, and words (`Arguments.read`). All options
but one take the argument after them as their value, whatever it looks like.
Anything that is no option is a word.
-/

namespace PortMapper.CommandLine

/-- What the options say. -/
structure Options where
  host : String := "127.0.0.1"
  /-- The port of the daemon; 0 leaves it to `wellKnownPort`. -/
  port : UInt16 := 0
  kind : PortKind := ⟨.tcp, .native⟩
  /-- Whether the output is for programs. -/
  json : Bool := false
deriving DecidableEq, Repr

/-- What is wrong with an option. -/
inductive OptionFault where
  /-- The option at the end lacks its value. -/
  | missingValue (option : String)
  | badPort (fault : NumberFault)
  | badKind (fault : MessageFault)
deriving DecidableEq, Repr

/-- The options that take a value. -/
inductive Valued where
  | host
  | port
  | kind
deriving DecidableEq, Repr

namespace Valued

/-- How an option is written. -/
def text : Valued → String
  | .host => "--host"
  | .port => "--port"
  | .kind => "--type"

/-- The option that an argument is. -/
def ofText? (arg : String) : Option Valued :=
  if arg = text .host then some .host
  else if arg = text .port then some .port
  else if arg = text .kind then some .kind
  else none

end Valued

/-- How the option without a value is written. -/
def jsonFlag : String := "--json"

/-- Gives an option a value. -/
def Options.set (o : Options) (option : Valued) (value : String) : Except OptionFault Options :=
  match option with
  | .host => .ok { o with host := value }
  | .port =>
    match Decimal.read (UInt16.size - 1) value.toList with
    | .error f => .error (.badPort f)
    | .ok n => .ok { o with port := n.toUInt16 }
  | .kind =>
    match PortKind.ofName value with
    | .error f => .error (.badKind f)
    | .ok kind => .ok { o with kind }

/-- What a command line says. -/
structure Arguments where
  options : Options := {}
  words : List String := []
deriving DecidableEq, Repr

namespace Arguments

/-- Reads arguments from the left, after those already read. -/
def readFrom (a : Arguments) : List String → Except OptionFault Arguments
  | [] => .ok a
  | arg :: rest =>
    match Valued.ofText? arg with
    | some option =>
      match rest with
      | [] => .error (.missingValue arg)
      | value :: rest =>
        match a.options.set option value with
        | .error f => .error f
        | .ok options => readFrom { a with options } rest
    | none =>
      if arg = jsonFlag then readFrom { a with options := { a.options with json := true } } rest
      else readFrom { a with words := a.words ++ [arg] } rest

/-- Reads the arguments of a command line. -/
def read (args : List String) : Except OptionFault Arguments := readFrom {} args

end Arguments

end PortMapper.CommandLine
