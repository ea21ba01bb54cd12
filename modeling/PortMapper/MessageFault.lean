import PortMapper.PortKind

/-!
# Message faults

What can be wrong with a request or a reply, each with its wording.
-/

namespace PortMapper

/-- The longest name, or payload of a probe, that a request carries. -/
def maxNameLength : Nat := 255

/-- The size of every request on the wire. -/
def frameSize : Nat := 264

/-- Why bytes are no message, or a message cannot be made. -/
inductive MessageFault where
  | badFrameLength (length : Nat)
  | unknownOpcode (byte : UInt8)
  | invalidKind (byte : UInt8)
  | unknownKindName (text : String)
  | nameTooLong (length : Nat)
  | malformedAddresses (length : Nat)
  | shortReply (expected got : Nat)
  | replyTooLarge (announced : Nat)
  | truncatedNames
deriving DecidableEq, Repr

/-- The two hexadecimal digits of a byte. -/
def hexByte (b : UInt8) : String :=
  String.ofList [(b.toNat / 16).digitChar, (b.toNat % 16).digitChar]

/-- The wording of a fault. -/
def MessageFault.message : MessageFault → String
  | .badFrameLength n => s!"frame is {n} bytes, expected {frameSize}"
  | .unknownOpcode b => s!"unknown opcode: 0x{hexByte b}"
  | .invalidKind b => s!"invalid port type: 0x{hexByte b}"
  | .unknownKindName text => s!"unknown port type name: {text}"
  | .nameTooLong n => s!"name length {n} exceeds maximum {maxNameLength}"
  | .malformedAddresses n => s!"address payload of {n} bytes is not a whole number of addresses"
  | .shortReply expected got => s!"short reply: expected {expected} bytes, got {got}"
  | .replyTooLarge n => s!"reply announces {n} items, over the limit"
  | .truncatedNames => "NAMES reply truncated mid-entry"

/-- The kind that a byte stands for, or the fault of having none. -/
def PortKind.ofByte (b : UInt8) : Except MessageFault PortKind :=
  match PortKind.ofByte? b with
  | some k => .ok k
  | none => .error (.invalidKind b)

/-- The kind of a given name, or the fault of there being none. -/
def PortKind.ofName (text : String) : Except MessageFault PortKind :=
  match PortKind.ofName? text with
  | some k => .ok k
  | none => .error (.unknownKindName text)

end PortMapper
