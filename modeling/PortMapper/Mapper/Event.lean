import PortMapper.Mapper.Housekeeping

/-!
# Events

All that happens to a mapper is an event: a request, a datagram, a tick, or
something done to its outbox or its neighbours. `Mapper.step` takes one event
and `Mapper.run` takes them one after another. Each has its own time, and its
own answer to what ports are free.
-/

namespace PortMapper

/-- What may happen to a mapper. -/
inductive Event where
  | request (request : Request) (source : Endpoint) (channel : Channel)
  | datagram (bytes : Bytes) (source : Endpoint)
  | tick
  | beginSweep
  | contact (address : Address)
  | dropSilent
  | post (destination : Endpoint) (payload : Bytes)
  | postProbe (destination : Endpoint) (payload : Bytes)
  | next
  | take
  | takeAll
  | flush (results : List SendResult)
deriving DecidableEq, Repr

/-- What comes of an event, besides the mapper after it. -/
inductive Reaction where
  | none
  | outcome (outcome : Outcome)
  | noted (accepted : Bool)
  | counted (number : Nat)
  | datagram (datagram : Option Datagram)
  | datagrams (datagrams : List Datagram)
deriving DecidableEq, Repr

/-- An event with the time at which it happens and the ports free then. -/
structure Occurrence where
  time : Nat
  isFree : Vacancy
  event : Event

namespace Mapper

/-- What comes of an event. -/
structure Step where
  reaction : Reaction := .none
  mapper : Mapper
  asked : List PortUse := []
deriving DecidableEq, Repr

/-- Takes one event. -/
def step (m : Mapper) (o : Occurrence) : Step :=
  match o.event with
  | .request r source channel =>
    let h := m.handle o.isFree o.time r source channel
    { reaction := .outcome h.outcome, mapper := h.mapper, asked := h.asked }
  | .datagram bytes source =>
    let r := m.receive o.isFree o.time bytes source
    { mapper := r.mapper, asked := r.asked }
  | .tick => { mapper := m.tick o.time }
  | .beginSweep =>
    let (n, mapper) := m.beginSweep o.time
    { reaction := .counted n, mapper }
  | .contact a =>
    let (accepted, neighbours) := m.neighbours.contact m.host a o.time
    { reaction := .noted accepted, mapper := { m with neighbours } }
  | .dropSilent =>
    let (n, mapper) := m.dropSilent o.time
    { reaction := .counted n, mapper }
  | .post destination payload =>
    { mapper := { m with outbox := m.outbox.post destination payload } }
  | .postProbe destination payload =>
    { mapper := { m with outbox := m.outbox.postProbes [(destination, payload)] } }
  | .next => { reaction := .datagram m.outbox.next?, mapper := m }
  | .take =>
    let (d, outbox) := m.outbox.take
    { reaction := .datagram d, mapper := { m with outbox } }
  | .takeAll =>
    let (ds, outbox) := m.outbox.takeAll
    { reaction := .datagrams ds, mapper := { m with outbox } }
  | .flush results =>
    let f := m.outbox.flush results
    { reaction := .datagrams f.sent, mapper := { m with outbox := f.outbox } }

/-- Takes events one after another. -/
def run (m : Mapper) (os : List Occurrence) : Mapper :=
  os.foldl (fun m o => (m.step o).mapper) m

end Mapper

end PortMapper
