import PortMapper.Address.Dotted
import PortMapper.Document.Reader
import PortMapper.Settings

/-!
# Settings in documents

A settings file is a document with a table for each section
(`Settings.ofDocument?`). What it does not mention keeps its default, and
what is not known is not looked at. A section may also be written as an array
of its fields in their order. `Settings.render` writes settings as such a
file. Both make a format of settings (`Settings.Format.document`).
-/

namespace PortMapper

open Document (Value Entries)

namespace Settings

/-! ## Reading -/

/-- How the fields of a section are found: by key in a table, by position in
an array. A date has no fields. -/
abbrev Fields := List Char → Nat → Option Value

/-- The fields of a section. -/
def fields? : Value → Option Fields
  | .table _ entries => some fun key _ => Entries.get? entries key
  | .dateTime _ => some fun _ _ => none
  | v => v.elements?.map fun vs _ i => vs[i]?

/-- Reads a field that has a default. -/
def field? (fields : Fields) (key : String) (position : Nat) (default : α)
    (read : Value → Option α) : Option α :=
  match fields key.toList position with
  | none => some default
  | some v => read v

/-- Reads a number below a bound. -/
def natural? (bound : Nat) : Value → Option Nat
  | .integer n => if 0 ≤ n ∧ n < bound then some n.toNat else none
  | _ => none

/-- Reads a number of seconds. -/
def seconds? (v : Value) : Option UInt64 := (natural? UInt64.size v).map (·.toUInt64)

/-- Reads a truth value. -/
def flag? : Value → Option Bool
  | .boolean b => some b
  | _ => none

/-- Reads a text. -/
def text? : Value → Option (List Char)
  | .string text => some text
  | _ => none

/-- Reads an address. -/
def address? (v : Value) : Option Address := text? v >>= Address.parse?

/-- Reads a list of things. -/
def list? (read : Value → Option α) (v : Value) : Option (List α) :=
  v.elements? >>= fun vs => vs.mapM read

/-- Reads where the daemon listens. -/
def listening? (v : Value) : Option Listening := do
  let fields ← fields? v
  let d : Listening := {}
  return {
    port := ← field? fields "port" 0 d.port fun v => (natural? UInt16.size v).map (·.toUInt16)
    bindAddress := ← field? fields "bind_addr" 1 d.bindAddress address? }

/-- Reads how other daemons are looked for. -/
def probing? (v : Value) : Option Probing := do
  let fields ← fields? v
  let d : Probing := {}
  return {
    enabled := ← field? fields "enabled" 0 d.enabled flag?
    broadcast := ← field? fields "broadcast" 1 d.broadcast flag?
    intervalSecs := ← field? fields "interval_secs" 2 d.intervalSecs seconds?
    maxUnicastHosts := ← field? fields "max_unicast_hosts" 3 d.maxUnicastHosts fun v =>
      (natural? UInt32.size v).map (·.toUInt32)
    peers := ← field? fields "peers" 4 d.peers (list? address?) }

/-- Reads how long the steps of an exchange may take. -/
def timeouts? (v : Value) : Option Timeouts := do
  let fields ← fields? v
  let d : Timeouts := {}
  return {
    connectSecs := ← field? fields "connect_secs" 0 d.connectSecs seconds?
    writeSecs := ← field? fields "write_secs" 1 d.writeSecs seconds?
    readSecs := ← field? fields "read_secs" 2 d.readSecs seconds?
    requestSecs := ← field? fields "request_secs" 3 d.requestSecs seconds? }

/-- Reads an interface, which must have an address and a mask. -/
def interfaceEntry? (v : Value) : Option InterfaceEntry := do
  let fields ← fields? v
  return {
    address := ← fields "addr".toList 0 >>= address?
    netmask := ← fields "netmask".toList 1 >>= address?
    broadcast := ← field? fields "broadcast" 2 none fun v => (address? v).map some }

/-- The settings in a document, with the defaults for what it does not mention. -/
def ofDocument? (d : Settings) (entries : Entries) : Option Settings := do
  let fields : Fields := fun key _ => Entries.get? entries key
  return {
    dumpPath := ← field? fields "dump_path" 0 d.dumpPath fun v => (text? v).map String.ofList
    listening := ← field? fields "network" 1 d.listening listening?
    probing := ← field? fields "probe" 2 d.probing probing?
    timeouts := ← field? fields "timeouts" 3 d.timeouts timeouts?
    interfaces := ← field? fields "interfaces" 4 d.interfaces (list? interfaceEntry?) }

/-- The settings that a text describes. -/
def ofText? (d : Settings) (cs : List Char) : Option Settings :=
  Document.read? cs >>= ofDocument? d

/-! ## Writing -/

/-- A line that sets a key. -/
def setting (key : String) (value : List Char) : List Char :=
  key.toList ++ " = ".toList ++ value ++ ['\n']

/-- A truth value as it is written. -/
def renderFlag (b : Bool) : List Char := if b then "true".toList else "false".toList

/-- An address as it is written. -/
def renderAddress (a : Address) : List Char := Document.quote a.dotted

/-- An array of addresses, one on each line. -/
def renderAddresses (as : List Address) : List Char :=
  if as = [] then "[]".toList
  else
    "[\n".toList ++ as.flatMap (fun a => "    ".toList ++ renderAddress a ++ ",\n".toList) ++ [']']

/-- The section on where the daemon listens. -/
def renderListening (s : Listening) : List Char :=
  setting "port" (Decimal.text s.port.toNat) ++ setting "bind_addr" (renderAddress s.bindAddress)

/-- The section on how other daemons are looked for. -/
def renderProbing (s : Probing) : List Char :=
  setting "enabled" (renderFlag s.enabled) ++ setting "broadcast" (renderFlag s.broadcast) ++
    setting "interval_secs" (Decimal.text s.intervalSecs.toNat) ++
    setting "max_unicast_hosts" (Decimal.text s.maxUnicastHosts.toNat) ++
    setting "peers" (renderAddresses s.peers)

/-- The section on how long the steps of an exchange may take. -/
def renderTimeouts (s : Timeouts) : List Char :=
  setting "connect_secs" (Decimal.text s.connectSecs.toNat) ++
    setting "write_secs" (Decimal.text s.writeSecs.toNat) ++
    setting "read_secs" (Decimal.text s.readSecs.toNat) ++
    setting "request_secs" (Decimal.text s.requestSecs.toNat)

/-- The table of an interface. -/
def renderInterface (e : InterfaceEntry) : List Char :=
  setting "addr" (renderAddress e.address) ++ setting "netmask" (renderAddress e.netmask) ++
    match e.broadcast with
    | none => []
    | some a => setting "broadcast" (renderAddress a)

/-- The settings as a file. -/
def render (s : Settings) : List Char :=
  setting "dump_path" (Document.quote s.dumpPath.toList) ++
    (if s.interfaces = [] then setting "interfaces" "[]".toList else []) ++
    "\n[network]\n".toList ++ renderListening s.listening ++
    "\n[probe]\n".toList ++ renderProbing s.probing ++
    "\n[timeouts]\n".toList ++ renderTimeouts s.timeouts ++
    s.interfaces.flatMap fun e => "\n[[interfaces]]\n".toList ++ renderInterface e

/-- Whether all numbers of seconds can be written: those of documents have a sign. -/
def isWritable (s : Settings) : Bool :=
  [s.probing.intervalSecs, s.timeouts.connectSecs, s.timeouts.writeSecs, s.timeouts.readSecs,
    s.timeouts.requestSecs].all (· < 0x8000000000000000)

/-- Settings kept in documents. -/
def Format.document (d : Settings) : Format where
  read := ofText? d
  render s := if s.isWritable then some s.render else none

end Settings

end PortMapper
