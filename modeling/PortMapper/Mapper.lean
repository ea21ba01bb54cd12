import PortMapper.Directory
import PortMapper.Neighbours
import PortMapper.Outbox
import PortMapper.Request.Frame

/-!
# The mapper

The mapper is what a daemon knows: the names registered on this host, its
neighbours, and the datagrams waiting to be sent. `Mapper.handle` answers one
request. Only this host may register and withdraw names, and lists are only
sent over a connection, since they may not fit in a datagram. A probe is
answered by our addresses on the prober's network; the answer to a probe is
never answered, so that no two daemons keep answering one another.
-/

namespace PortMapper

/-- What a request arrived on. -/
inductive Channel where
  | tcp
  | udp
deriving DecidableEq, Repr

/-- What becomes of a request. -/
inductive Outcome where
  /-- These bytes are sent back. -/
  | reply (bytes : Bytes)
  /-- It is not answered. -/
  | close
deriving DecidableEq, Repr

/-- What is sent back. -/
def Outcome.written : Outcome → Bytes
  | .reply bytes => bytes
  | .close => []

/-- What a daemon knows. -/
structure Mapper where
  host : Host
  /-- The port that daemons are reached at. -/
  port : UInt16
  probing : Settings.Probing := {}
  directory : Directory := {}
  neighbours : Neighbours := {}
  outbox : Outbox := {}
  /-- When the latest sweep started. -/
  sweepStarted : Option Nat := none
deriving DecidableEq, Repr

namespace Mapper

/-- What became of a request, the mapper after it, and the ports that it
asked about. -/
structure Handled where
  outcome : Outcome
  mapper : Mapper
  asked : List PortUse := []
deriving DecidableEq, Repr

/-- A request that is not answered and changes nothing. -/
def ignored (m : Mapper) : Handled := { outcome := .close, mapper := m }

/-- Replies with the port that the directory answered. -/
def answered (m : Mapper) (a : Directory.Answer) : Handled :=
  { outcome := .reply (Reply.port a.port), mapper := { m with directory := a.directory },
    asked := a.asked }

/-- Handles a request to register or to withdraw a name, which must come from
this host and have a valid kind. -/
def change (m : Mapper) (r : Request) (source : Endpoint)
    (act : PortKind → Directory.Answer) : Handled :=
  if !m.host.owns source.address then m.ignored
  else match r.kind with
    | .error _ => m.ignored
    | .ok kind => m.answered (act kind)

/-- Handles a request for the port of a name. -/
def lookup (m : Mapper) (isFree : Vacancy) (r : Request) : Handled :=
  match r.kind with
  | .error _ => m.ignored
  | .ok kind => m.answered (m.directory.lookupLive isFree r.name kind)

/-- Handles a request for a list. -/
def list (m : Mapper) (channel : Channel) (reply : Bytes) : Handled :=
  match channel with
  | .udp => m.ignored
  | .tcp => { outcome := .reply reply, mapper := m }

/-- The answer to a probe from `prober`. -/
def probeReply (m : Mapper) (prober : Address) : Request :=
  let ours := (m.host.addressFacing prober).getD .unspecified
  .probeReply ours prober (m.host.externalAddresses.filter (· != ours))

/-- Handles a probe. One in a datagram must come from the daemon of a
neighbour, and hold a whole number of addresses. -/
def probe (m : Mapper) (now : Nat) (r : Request) (source : Endpoint) (channel : Channel) :
    Handled :=
  let heard := (m.neighbours.contact m.host source.address now).2
  match channel with
  | .tcp =>
    { outcome := .reply (Reply.port m.port.toUInt32), mapper := { m with neighbours := heard } }
  | .udp =>
    if source.port ≠ m.port ∨ !m.host.admits source.address ∨ r.addresses.toOption.isNone then
      m.ignored
    else
      { outcome := .reply (m.probeReply source.address).frame,
        mapper := { m with neighbours := heard } }

/-- Handles the answer to a probe: it lists the addresses of the host that it
came from. If it does not hold a whole number of them, it lists none. -/
def noteReply (m : Mapper) (now : Nat) (r : Request) (source : Endpoint) (channel : Channel) :
    Handled :=
  if channel = .tcp ∨ source.port ≠ m.port then m.ignored
  else
    let announced := r.addresses.toOption.getD []
    { m with
      neighbours := (m.neighbours.announce m.host source.address announced now).2 }.ignored

/-- Handles a request. -/
def handle (m : Mapper) (isFree : Vacancy) (now : Nat) (r : Request) (source : Endpoint)
    (channel : Channel) : Handled :=
  match r.opcode with
  | .register => m.change r source (m.directory.register isFree r.name r.port)
  | .lookup => m.lookup isFree r
  | .unregister => m.change r source (m.directory.withdraw r.name r.port)
  | .servers => m.list channel (Reply.addresses m.neighbours.addresses)
  | .names => m.list channel (Reply.names m.directory.listing)
  | .probe => m.probe now r source channel
  | .probeReply => m.noteReply now r source channel

/-- What a datagram did to the mapper, and the ports that it asked about. -/
structure Received where
  mapper : Mapper
  asked : List PortUse := []
deriving DecidableEq, Repr

/-- Takes in a datagram. One that holds no request is dropped, and an answer
waits in the outbox. -/
def receive (m : Mapper) (isFree : Vacancy) (now : Nat) (bytes : Bytes) (source : Endpoint) :
    Received :=
  match Request.ofFrame bytes with
  | .error _ => { mapper := m }
  | .ok r =>
    let h := m.handle isFree now r source .udp
    match h.outcome with
    | .close => { mapper := h.mapper, asked := h.asked }
    | .reply reply =>
      { mapper := { h.mapper with outbox := h.mapper.outbox.post source reply }, asked := h.asked }

end Mapper

end PortMapper
