import PortMapper.Address

/-!
# The outbox

Datagrams wait in the outbox until they can be sent, and leave it in the
order in which they came. The outbox also counts the probes in it.
-/

namespace PortMapper

/-- Why a datagram is sent. -/
inductive Purpose where
  /-- It answers a request. -/
  | reply
  /-- It is a probe of the current sweep. -/
  | probe
deriving DecidableEq, Repr

/-- A datagram to be sent. -/
structure Datagram where
  destination : Endpoint
  payload : Bytes
  purpose : Purpose
deriving DecidableEq, Repr

/-- What the network says to a datagram. -/
inductive SendResult where
  | sent
  /-- There is no room for it at present. -/
  | wouldBlock
  /-- It cannot be sent at all. -/
  | refused
deriving DecidableEq, Repr

/-- The datagrams waiting to be sent, the oldest first. -/
structure Outbox where
  queue : List Datagram := []
  /-- How many of them are probes. -/
  pendingProbes : Nat := 0
deriving DecidableEq, Repr

namespace Outbox

/-- Adds an answer. -/
def post (o : Outbox) (destination : Endpoint) (payload : Bytes) : Outbox :=
  { o with queue := o.queue ++ [⟨destination, payload, .reply⟩] }

/-- Adds probes, in their order. -/
def postProbes (o : Outbox) (probes : List (Endpoint × Bytes)) : Outbox :=
  { queue := o.queue ++ probes.map fun p => ⟨p.1, p.2, .probe⟩
    pendingProbes := o.pendingProbes + probes.length }

/-- The datagram to be sent next. -/
def next? (o : Outbox) : Option Datagram := o.queue.head?

/-- Removes the datagram to be sent next. -/
def remove (o : Outbox) : Outbox :=
  match o.queue with
  | [] => o
  | d :: rest =>
    { queue := rest
      pendingProbes := if d.purpose = .probe then o.pendingProbes - 1 else o.pendingProbes }

@[simp] theorem queue_post (o : Outbox) (destination : Endpoint) (payload : Bytes) :
    (o.post destination payload).queue = o.queue ++ [⟨destination, payload, .reply⟩] := rfl

@[simp] theorem queue_postProbes (o : Outbox) (probes : List (Endpoint × Bytes)) :
    (o.postProbes probes).queue = o.queue ++ probes.map fun p => ⟨p.1, p.2, .probe⟩ := rfl

@[simp] theorem queue_remove (o : Outbox) : o.remove.queue = o.queue.tail := by
  cases h : o.queue <;> simp [remove, h]

/-- Takes the datagram to be sent next. -/
def take (o : Outbox) : Option Datagram × Outbox := (o.next?, o.remove)

/-- Takes all datagrams. -/
def takeAll (o : Outbox) : List Datagram × Outbox := (o.queue, {})

/-- The number of datagrams. -/
def size (o : Outbox) : Nat := o.queue.length

/-- Whether there is none. -/
def isEmpty (o : Outbox) : Bool := o.queue.isEmpty

/-! ## Sending -/

/-- What became of the datagrams of a flush, and what is left. -/
structure Flushed where
  sent : List Datagram := []
  refused : List Datagram := []
  outbox : Outbox
deriving DecidableEq, Repr

/-- Sends the datagrams in their order for as long as there is room; one that
cannot be sent at all is dropped. The results are those of the attempts, and
when they end there is no room for more. -/
def flush (o : Outbox) : List SendResult → Flushed
  | [] => { outbox := o }
  | r :: results =>
    match o.next? with
    | none => { outbox := o }
    | some d =>
      match r with
      | .wouldBlock => { outbox := o }
      | .sent => let f := o.remove.flush results; { f with sent := d :: f.sent }
      | .refused => let f := o.remove.flush results; { f with refused := d :: f.refused }

end Outbox

end PortMapper
