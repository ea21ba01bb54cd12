import PortMapper.Reply
import PortMapper.Request.Frame
import PortMapper.Stream

/-!
# Clients

A client connects to a daemon, sends one request and reads the reply. The
network is a function from the daemon's endpoint and the frame to what comes
back, and may keep a state of its own. A reply is read to its end and no
further: four bytes for a port, and as many as its header announces for a
list.

Daemons are reached at IPv4 addresses. At an IPv6 address a probe would have
no receiver to name, and a search no address for the daemon's own host; they
would put 0.0.0.0 and 127.0.0.1 in their places.
-/

namespace PortMapper

/-- The steps of an exchange that take time. -/
inductive Phase where
  | connect
  | write
  | read
deriving DecidableEq, Repr

/-- Why a client has no reply. -/
inductive CallFault where
  | timedOut (phase : Phase)
  /-- The daemon closed the connection too early. -/
  | closed
  | system (fault : SystemFault)
  | malformed (fault : MessageFault)
deriving DecidableEq, Repr

/-- The wording of a fault. -/
def CallFault.message : CallFault → String
  | .timedOut .connect => "timed out during connect"
  | .timedOut .write => "timed out during write"
  | .timedOut .read => "timed out during read"
  | .closed => "server closed the connection before replying"
  | .system f => s!"i/o error: {f.message}"
  | .malformed f => s!"bad reply: {f.message}"

/-- What an attempt to connect and to send a request leads to. -/
inductive Delivery where
  /-- Connecting failed, or else writing. -/
  | failed (fault : SystemFault)
  /-- It took too long. -/
  | late (phase : Phase)
  | received (stream : Stream)
deriving DecidableEq, Repr

/-- What comes back for a frame sent to an endpoint. -/
abbrev Network (σ : Type) := Endpoint → Bytes → σ → Delivery × σ

/-- The network of a host that has no way to any other. -/
def isolated : Network Unit := fun _ _ s => (.failed .networkUnreachable, s)

namespace Client

/-! ## Reading replies -/

/-- Takes bytes of a reply. -/
def take (s : Stream) (n : Nat) : Except CallFault (Bytes × Stream) :=
  match s.take n with
  | .ok taken => .ok taken
  | .error .closed => .error .closed
  | .error .stalled => .error (.timedOut .read)
  | .error (.broken f) => .error (.system f)

/-- A fault in a reply. -/
def checked (e : Except MessageFault α) : Except CallFault α :=
  match e with
  | .ok a => .ok a
  | .error f => .error (.malformed f)

/-- Reads a reply that is a port. -/
def readPort (s : Stream) : Except CallFault UInt32 := do
  let (bytes, _) ← take s 4
  checked (Reply.readPort bytes)

/-- Takes the number that a list begins with. -/
def takeHeader (s : Stream) (announced : UInt8 → UInt8 → UInt8 → UInt8 → Except MessageFault Nat) :
    Except CallFault (Nat × Stream) := do
  match ← take s 4 with
  | ([a, b, c, d], rest) => return (← checked (announced a b c d), rest)
  | (bytes, _) => throw (.malformed (.shortReply 4 bytes.length))

/-- Reads a reply that is a list of addresses. -/
def readAddresses (s : Stream) : Except CallFault (List Address) := do
  let (count, rest) ← takeHeader s Reply.addressCount
  let (body, _) ← take rest (count * Address.size)
  checked (Reply.readAddresses body count)

/-- Reads a reply that is a list of names. -/
def readNames (s : Stream) : Except CallFault (List Reply.Listed) := do
  let (length, rest) ← takeHeader s Reply.namesLength
  let (body, _) ← take rest length
  checked (Reply.readNames body)

/-! ## Calls -/

/-- Sends a request and reads the reply. A request that cannot be made is not
sent. -/
def call (network : Network σ) (daemon : Endpoint) (request : Except MessageFault Request)
    (read : Stream → Except CallFault α) (s : σ) : Except CallFault α × σ :=
  match request with
  | .error f => (.error (.malformed f), s)
  | .ok r =>
    match network daemon r.frame s with
    | (.failed f, s) => (.error (.system f), s)
    | (.late phase, s) => (.error (.timedOut phase), s)
    | (.received stream, s) => (read stream, s)

/-- Registers a name; the reply is its port, or 0. -/
def register (network : Network σ) (daemon : Endpoint) (name : Bytes) (port : UInt32)
    (kind : PortKind) : σ → Except CallFault UInt32 × σ :=
  call network daemon (Request.register name port kind) readPort

/-- Asks for the port of a name; the reply is 0 if it has none. -/
def lookup (network : Network σ) (daemon : Endpoint) (name : Bytes) (kind : PortKind) :
    σ → Except CallFault UInt32 × σ :=
  call network daemon (Request.lookup name kind) readPort

/-- Withdraws a name; the reply is its port, or 0. -/
def unregister (network : Network σ) (daemon : Endpoint) (name : Bytes) (port : UInt32)
    (kind : PortKind) : σ → Except CallFault UInt32 × σ :=
  call network daemon (Request.unregister name port kind) readPort

/-- Probes a daemon; the reply is its port. -/
def probe (network : Network σ) (daemon : Endpoint) (sender : Address) :
    σ → Except CallFault UInt32 × σ :=
  call network daemon (.ok (.probe sender daemon.address)) readPort

/-- Asks for the addresses of the daemons known. -/
def servers (network : Network σ) (daemon : Endpoint) : σ → Except CallFault (List Address) × σ :=
  call network daemon (.ok .servers) readAddresses

/-- Asks for the names registered. -/
def names (network : Network σ) (daemon : Endpoint) :
    σ → Except CallFault (List Reply.Listed) × σ :=
  call network daemon (.ok .names) readNames

/-! ## Searching -/

/-- Asks hosts for the port of a name one after another, up to the first that
has one. A host that does not answer is passed over. -/
def searchAmong (network : Network σ) (port : UInt16) (name : Bytes) (kind : PortKind) :
    List Address → σ → Option (Address × UInt32) × σ
  | [], s => (none, s)
  | a :: as, s =>
    match lookup network ⟨a, port⟩ name kind s with
    | (.ok p, s) => if p = 0 then searchAmong network port name kind as s else (some (a, p), s)
    | (.error _, s) => searchAmong network port name kind as s

/-- Asks a daemon for the port of a name, and then all daemons that it knows.
The answer is the first host that has the name, with its port. -/
def search (network : Network σ) (daemon : Endpoint) (name : Bytes) (kind : PortKind) (s : σ) :
    Except CallFault (Option (Address × UInt32)) × σ :=
  match lookup network daemon name kind s with
  | (.error f, s) => (.error f, s)
  | (.ok p, s) =>
    if p ≠ 0 then (.ok (some (daemon.address, p)), s)
    else match servers network daemon s with
      | (.error f, s) => (.error f, s)
      | (.ok as, s) =>
        let (found, s) := searchAmong network daemon.port name kind as s
        (.ok found, s)

end Client

end PortMapper
