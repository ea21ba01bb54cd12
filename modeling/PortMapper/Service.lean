import PortMapper.Mapper.Housekeeping
import PortMapper.Session

/-!
# The service

A service is a mapper together with the connections open at the moment. Each
connection goes its own way, one action at a time: it collects the bytes of
its request, sends the request through a channel to the mapper, waits for the
outcome and writes the reply, piece by piece, until all of it is written or
writing fails. The mapper takes requests from the channel in their order, and
between them datagrams, ticks and chances to send (`Service.act`).
-/

namespace PortMapper

/-- How far a connection has got. -/
inductive Stage where
  /-- It has received these bytes of its request. -/
  | reading (received : Bytes)
  /-- It has a request, and waits for room in the channel. -/
  | sending (source : Endpoint) (request : Request)
  /-- Its request is in the channel. -/
  | waiting
  /-- It has its reply, of which it has written a part. The rest is left. -/
  | replying (written rest : Bytes)
  /-- It is closed, and has written these bytes. -/
  | finished (written : Bytes)
deriving DecidableEq, Repr

/-- What a connection has written so far. -/
def Stage.written : Stage → Bytes
  | .replying written _ | .finished written => written
  | _ => []

/-- A connection of a client; one without an IPv4 address has no source. -/
structure Connection where
  source : Option Endpoint
  stage : Stage
deriving DecidableEq, Repr

/-- A request on its way to the mapper. -/
structure Command where
  /-- The number of the connection that waits for the outcome. -/
  connection : Nat
  source : Endpoint
  request : Request
deriving DecidableEq, Repr

/-- A mapper and its connections, numbered in the order in which they came. -/
structure Service where
  mapper : Mapper
  connections : List Connection := []
  /-- The requests in the channel, the oldest first. -/
  commands : List Command := []
deriving DecidableEq, Repr

/-- What may be done in a service. -/
inductive Action where
  | accept (source : Option Endpoint)
  /-- Bytes arrive on a connection. -/
  | deliver (connection : Nat) (bytes : Bytes)
  /-- A client closes a connection, or takes too long, before it has sent its
  request. -/
  | giveUp (connection : Nat)
  /-- A connection puts its request into the channel. -/
  | submit (connection : Nat)
  /-- The mapper takes a request from the channel. -/
  | take
  /-- The next bytes of a reply are written, as many as there is room for. The
  connection closes after the last of them. -/
  | write (connection count : Nat)
  /-- Writing a reply fails, or takes too long, and the connection closes. -/
  | fail (connection : Nat)
  | datagram (bytes : Bytes) (source : Endpoint)
  | tick
  /-- Datagrams are sent; the results are those of the attempts. -/
  | flush (results : List SendResult)
deriving DecidableEq, Repr

namespace Service

/-- How many requests the channel has room for. -/
def channelSize : Nat := 64

/-- The service after an action, the datagrams sent by it, and the ports
asked about. -/
structure Done where
  service : Service
  sent : List Datagram := []
  asked : List PortUse := []
deriving DecidableEq, Repr

/-- Puts a connection at a stage. -/
def put (s : Service) (connection : Nat) (stage : Stage) : Service :=
  { s with connections := s.connections.modify connection ({ · with stage }) }

/-- The stage of a connection that has received some bytes. -/
def stageOf (source : Option Endpoint) (received : Bytes) : Stage :=
  match source with
  | none => .finished []
  | some source =>
    if received.length < frameSize then .reading received
    else match Request.ofFrame (received.take frameSize) with
      | .error _ => .finished []
      | .ok request => .sending source request

/-- Does an action. One that a connection is not at the stage for, or that
there is no room for, does nothing. -/
def act (s : Service) (isFree : Vacancy) (now : Nat) : Action → Done
  | .accept source =>
    { service := { s with connections := s.connections ++ [⟨source, stageOf source []⟩] } }
  | .deliver i bytes =>
    match s.connections[i]? with
    | some ⟨source, .reading received⟩ =>
      { service := s.put i (stageOf source (received ++ bytes)) }
    | _ => { service := s }
  | .giveUp i =>
    match s.connections[i]? with
    | some ⟨_, .reading _⟩ => { service := s.put i (.finished []) }
    | _ => { service := s }
  | .submit i =>
    match s.connections[i]? with
    | some ⟨_, .sending source request⟩ =>
      if s.commands.length < channelSize then
        { service := { s.put i .waiting with commands := s.commands ++ [⟨i, source, request⟩] } }
      else { service := s }
    | _ => { service := s }
  | .take =>
    match s.commands with
    | [] => { service := s }
    | c :: commands =>
      let h := s.mapper.handle isFree now c.request c.source .tcp
      let stage : Stage := .replying [] h.outcome.written
      { service := { s.put c.connection stage with mapper := h.mapper, commands }
        asked := h.asked }
  | .write i count =>
    match s.connections[i]? with
    | some ⟨_, .replying written rest⟩ =>
      let stage : Stage :=
        if rest.length ≤ count then .finished (written ++ rest)
        else .replying (written ++ rest.take count) (rest.drop count)
      { service := s.put i stage }
    | _ => { service := s }
  | .fail i =>
    match s.connections[i]? with
    | some ⟨_, .replying written _⟩ => { service := s.put i (.finished written) }
    | _ => { service := s }
  | .datagram bytes source =>
    let r := s.mapper.receive isFree now bytes source
    { service := { s with mapper := r.mapper }, asked := r.asked }
  | .tick => { service := { s with mapper := s.mapper.tick now } }
  | .flush results =>
    let f := s.mapper.outbox.flush results
    { service := { s with mapper := { s.mapper with outbox := f.outbox } }, sent := f.sent }

/-- Does actions one after another, at one time. -/
def actAll (s : Service) (isFree : Vacancy) (now : Nat) (actions : List Action) : Done :=
  actions.foldl (fun d a =>
    let next := d.service.act isFree now a
    { next with sent := d.sent ++ next.sent, asked := d.asked ++ next.asked }) { service := s }

end Service

end PortMapper
