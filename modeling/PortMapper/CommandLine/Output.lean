import PortMapper.Address.Dotted
import PortMapper.CommandLine.Json
import PortMapper.Reply
import PortMapper.Text.Padding
import PortMapper.Text.Utf8

/-!
# The output of commands

What commands write: tables and sentences for people, or JSON for programs.
Names are bytes, and shown as the text that they encode.
-/

namespace PortMapper.CommandLine

/-- What a command writes. -/
inductive Output where
  | lines (lines : List String)
  | value (value : Json)

namespace Output

/-- How the program is used. -/
def usage : List String := [
  "Usage: gdomap-ctl [options] <command>",
  "",
  "Commands:",
  "  register <name> <port>     Register a name (local daemon only)",
  "  unregister <name> <port>   Withdraw a name",
  "  unregister-all <port>      Withdraw every name at a port",
  "  lookup <name>              Look a name up (--host '*' searches all peers)",
  "  names                      List registered names",
  "  servers                    List known gdomap peers",
  "  probe                      Check that a daemon answers",
  "",
  "Options:",
  "  --host <addr>   Daemon address (default: 127.0.0.1)",
  "  --port <port>   Daemon port (default: service database, then 538)",
  "  --type <type>   tcp_gdo, udp_gdo, tcp_foreign, udp_foreign (default: tcp_gdo)",
  "  --json          Machine-readable output"]

/-- The heading of a table. -/
def heading (title : String) (count : Nat) : List String :=
  let rule := String.ofList (List.replicate 39 '═')
  [rule, s!"  {title} ({count})", rule]

/-- A name for programs. -/
def nameObject (e : Reply.Listed) : Json :=
  .object [("name", .string (Utf8.decodeLossy e.name)), ("port_type", .string e.kind.name.toList)]

/-- A name in a table. -/
def nameLine (e : Reply.Listed) : String :=
  s!"  {String.ofList (padRight 32 (Utf8.decodeLossy e.name))} {e.kind}"

/-- The names registered. -/
def names (json : Bool) (es : List Reply.Listed) : Output :=
  if json then .value (.array (es.map nameObject))
  else if es.isEmpty then .lines ["No names registered."]
  else .lines (heading "Registered Names" es.length ++ es.map nameLine)

/-- The daemons known. -/
def servers (json : Bool) (as : List Address) : Output :=
  if json then .value (.array (as.map fun a => .string a.dotted))
  else if as.isEmpty then .lines ["No peers discovered yet."]
  else .lines (heading "Known gdomap Servers" as.length ++ as.map fun a => s!"  {a}")

/-- A name that was found. -/
def found (json : Bool) (name : String) (a : Address) (port : UInt32) : Output :=
  if json then .value (.object
    [("name", .string name.toList), ("host", .string a.dotted), ("port", .number port.toNat)])
  else .lines [s!"'{name}' is at {a}:{port}"]

end Output

end PortMapper.CommandLine
