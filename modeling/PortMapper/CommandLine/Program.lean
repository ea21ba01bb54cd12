import PortMapper.CommandLine.Command
import PortMapper.CommandLine.Failure
import PortMapper.CommandLine.Output
import PortMapper.Settings

/-!
# The program

`CommandLine.run` reads a command line, carries out its command by calling
the daemon, and tells what is written and with which code the program ends.
-/

namespace PortMapper.CommandLine

/-- What a program has written, and the code it has ended with. -/
structure Transcript where
  exitCode : Nat := 0
  output : String := ""
  errors : String := ""
deriving DecidableEq, Repr

/-- The host that a program runs on, as far as its commands need it, and how
the program prints. -/
structure Surroundings (σ : Type) where
  network : Network σ
  /-- The ports in the database of services. -/
  services : String → Option UInt16
  /-- Our address towards an endpoint. -/
  ourAddress : Endpoint → Option Address
  /-- The text of a value, or why it has none. -/
  print : Json → Except String String := fun v => .ok (String.ofList (v.pretty 0))
  /-- The text of a failure with its causes. -/
  report : String → List String → String := Failure.report

/-- What a command writes, or why it was not carried out. -/
abbrev Presented := Except Failure Output

/-- The lines that a command writes, or why it was not carried out. -/
abbrev Lines := Except Failure (List String)

/-- The lines of an output. -/
def Surroundings.lines (env : Surroundings σ) : Output → Lines
  | .lines lines => .ok lines
  | .value v =>
    match env.print v with
    | .error reason => .error (.notPrintable reason)
    | .ok text => .ok [text]

/-- What is written of a failure. -/
def Surroundings.errors (env : Surroundings σ) (f : Failure) : String :=
  "Error: " ++ env.report f.message f.causes ++ "\n"

/-- The port that a text gives. -/
def readPort (text : String) : Except Failure UInt32 :=
  match Decimal.read (UInt32.size - 1) text.toList with
  | .error f => .error (.badPort text f)
  | .ok n => if n = 0 ∨ 65535 < n then .error (.portOutOfRange n) else .ok n.toUInt32

/-- The bytes of a name. -/
def nameBytes (name : String) : Bytes := Utf8.encode name.toList

/-- Calls the daemon on a host, and presents its reply. -/
def callDaemon (o : Options) (host : String) (call : Endpoint → σ → Except CallFault α × σ)
    (present : Endpoint → α → Presented) (s : σ) : Presented × σ :=
  match Address.parse? host.toList with
  | none => (.error (.badHost host), s)
  | some a =>
    let daemon : Endpoint := ⟨a, o.port⟩
    match call daemon s with
    | (.error f, s) => (.error (.call f), s)
    | (.ok reply, s) => (present daemon reply, s)

/-- Presents what became of a search. -/
def presentFound (o : Options) (name : String) : Option (Address × UInt32) → Presented
  | none => .error (.notRegistered name o.kind)
  | some (a, port) => .ok (.found o.json name a port)

/-- Carries out a command. -/
def execute (env : Surroundings σ) (o : Options) (c : Command) (s : σ) : Presented × σ :=
  match c with
  | .register name port =>
    match readPort port with
    | .error f => (.error f, s)
    | .ok port =>
      callDaemon o o.host (Client.register env.network · (nameBytes name) port o.kind)
        (fun _ got =>
          if got = 0 then .error (.refused name port.toNat)
          else .ok (.lines [s!"Registered '{name}' at port {got} ({o.kind})"])) s
  | .unregister name port =>
    match readPort port with
    | .error f => (.error f, s)
    | .ok port =>
      callDaemon o o.host (Client.unregister env.network · (nameBytes name) port o.kind)
        (fun _ got =>
          if got = 0 then .error (.nothingRegistered port.toNat)
          else if name.isEmpty then .ok (.lines [s!"Unregistered every name at port {got}"])
          else .ok (.lines [s!"Unregistered '{name}' from port {got}"])) s
  | .lookup name =>
    if o.host = "*" then
      callDaemon o "127.0.0.1" (Client.search env.network · (nameBytes name) o.kind)
        (fun _ => presentFound o name) s
    else
      callDaemon o o.host (Client.lookup env.network · (nameBytes name) o.kind)
        (fun daemon port =>
          presentFound o name (if port = 0 then none else some (daemon.address, port))) s
  | .names =>
    callDaemon o o.host (Client.names env.network) (fun _ es => .ok (.names o.json es)) s
  | .servers =>
    callDaemon o o.host (Client.servers env.network) (fun _ as => .ok (.servers o.json as)) s
  | .probe =>
    callDaemon o o.host
      (fun daemon => Client.probe env.network daemon ((env.ourAddress daemon).getD .localhost))
      (fun daemon port =>
        .ok (.lines [s!"gdomap at {daemon} is alive (serving port {port})"])) s
  | .help | .unknown _ => (.ok (.lines Output.usage), s)

/-- Lines as they are written. -/
def unlines (lines : List String) : String := String.join (lines.map (· ++ "\n"))

/-- Runs the program with the given arguments. -/
def run (env : Surroundings σ) (args : List String) (s : σ) : Transcript × σ :=
  match Arguments.read args with
  | .error f => ({ exitCode := 1, errors := env.errors (.option f) }, s)
  | .ok a =>
    let options := { a.options with port := wellKnownPort a.options.port env.services }
    let command := Command.ofWords a.words
    let (presented, s) := execute env options command s
    match presented >>= env.lines with
    | .error f => ({ exitCode := 1, errors := env.errors f }, s)
    | .ok lines =>
      match command with
      | .unknown words =>
        ({ exitCode := 1, output := unlines lines,
           errors := "Unknown command: " ++ " ".intercalate words ++ "\n\n" }, s)
      | _ => ({ output := unlines lines }, s)

end PortMapper.CommandLine
