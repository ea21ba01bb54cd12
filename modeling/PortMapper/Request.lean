import PortMapper.Address
import PortMapper.MessageFault

/-!
# Requests

What a client asks of a daemon, and what daemons ask of one another. The
kind byte of a request is kept as it came: only registering, looking up and
withdrawing need a valid one (`Request.kind`).
-/

namespace PortMapper

/-- What a request asks for. -/
inductive Opcode where
  | register
  | lookup
  | unregister
  /-- The addresses of the daemons known. -/
  | servers
  /-- The names registered. -/
  | names
  /-- Asks another daemon to make itself known. -/
  | probe
  /-- Answers a probe, and is never answered itself. -/
  | probeReply
deriving DecidableEq, Repr

namespace Opcode

/-- The letter an opcode is sent as. -/
def toByte : Opcode → UInt8
  | .register => 0x52
  | .lookup => 0x4c
  | .unregister => 0x55
  | .servers => 0x53
  | .names => 0x4e
  | .probe => 0x50
  | .probeReply => 0x70

/-- The opcode that a byte stands for. -/
def ofByte : UInt8 → Except MessageFault Opcode
  | 0x52 => .ok .register
  | 0x4c => .ok .lookup
  | 0x55 => .ok .unregister
  | 0x53 => .ok .servers
  | 0x4e => .ok .names
  | 0x50 => .ok .probe
  | 0x70 => .ok .probeReply
  | b => .error (.unknownOpcode b)

@[simp] theorem ofByte_toByte (op : Opcode) : ofByte op.toByte = .ok op := by cases op <;> rfl

end Opcode

/-- A request. The name field of a probe and of its answer holds addresses. -/
structure Request where
  opcode : Opcode
  kindByte : UInt8 := 0
  port : UInt32 := 0
  name : Bytes := []
deriving DecidableEq, Repr

namespace Request

/-- A request about a name, which must not be longer than a frame carries. -/
def naming (opcode : Opcode) (name : Bytes) (port : UInt32) (kind : PortKind) :
    Except MessageFault Request :=
  if maxNameLength < name.length then .error (.nameTooLong name.length)
  else .ok { opcode, kindByte := kind.toByte, port, name }

/-- Asks to register `name` at `port`. -/
def register (name : Bytes) (port : UInt32) (kind : PortKind) : Except MessageFault Request :=
  naming .register name port kind

/-- Asks for the port that `name` is registered at. -/
def lookup (name : Bytes) (kind : PortKind) : Except MessageFault Request :=
  naming .lookup name 0 kind

/-- Asks to withdraw `name`, or every name at `port` if it is empty. -/
def unregister (name : Bytes) (port : UInt32) (kind : PortKind) : Except MessageFault Request :=
  naming .unregister name port kind

/-- Asks for the addresses of the daemons known. -/
def servers : Request := { opcode := .servers }

/-- Asks for the names registered. -/
def names : Request := { opcode := .names }

/-- A probe carries the sender's address and the target's. -/
def probe (sender target : Address) : Request :=
  { opcode := .probe, name := Address.encodeAll [sender, target] }

/-- How many further addresses the answer to a probe has room for. -/
def extraRoom : Nat := maxNameLength / Address.size - 2

/-- The answer to a probe carries our address, the prober's, and as many of
our other addresses as fit. -/
def probeReply (ours prober : Address) (others : List Address) : Request :=
  { opcode := .probeReply
    name := Address.encodeAll (ours :: prober :: others.take extraRoom) }

/-- The kind of port that a request is about. -/
def kind (r : Request) : Except MessageFault PortKind := PortKind.ofByte r.kindByte

/-- The addresses in the name field, which must hold a whole number of them. -/
def addresses (r : Request) : Except MessageFault (List Address) :=
  if r.name.length % Address.size = 0 then .ok (Address.decodeAll r.name)
  else .error (.malformedAddresses r.name.length)

end Request

end PortMapper
