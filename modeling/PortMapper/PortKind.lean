import PortMapper.Bytes

/-!
# Port kinds

A name is registered for a port together with the port's kind: the transport
it is reached by and whether it speaks the native object protocol. The wire
carries a kind in one byte, the transport in bits 4 to 6 and the service
class in bits 0 to 3. People write kinds by name.
-/

namespace PortMapper

/-- The protocol a port is reached by. -/
inductive Transport where
  | tcp
  | udp
deriving DecidableEq, Repr

/-- Whether a port speaks the native object protocol or something else. -/
inductive ServiceClass where
  | native
  | foreign
deriving DecidableEq, Repr

/-- The transport and the service class of a registered port. -/
structure PortKind where
  transport : Transport
  service : ServiceClass
deriving DecidableEq, Repr

namespace PortKind

/-- The kind as it is sent. -/
def toByte (k : PortKind) : UInt8 :=
  let transport := match k.transport with
    | .tcp => 0x10
    | .udp => 0x20
  let service := match k.service with
    | .native => 0x01
    | .foreign => 0x02
  transport ||| service

/-- The transport in a kind byte. Bit 7 belongs to no transport and no
class, so a byte that has it set has no transport. -/
def transportOf? (b : UInt8) : Option Transport :=
  match b >>> 4 with
  | 1 => some .tcp
  | 2 => some .udp
  | _ => none

/-- The service class in a kind byte. -/
def serviceOf? (b : UInt8) : Option ServiceClass :=
  match b &&& 0x0f with
  | 1 => some .native
  | 2 => some .foreign
  | _ => none

/-- The kind that a byte stands for. -/
def ofByte? (b : UInt8) : Option PortKind := do
  return ⟨← transportOf? b, ← serviceOf? b⟩

/-- A kind is read from the byte that it is sent as. -/
@[simp] theorem ofByte?_toByte (k : PortKind) : ofByte? k.toByte = some k := by
  obtain ⟨transport, service⟩ := k
  cases transport <;> cases service <;> rfl

/-- The full name of a kind. -/
def name (k : PortKind) : String :=
  match k.transport, k.service with
  | .tcp, .native => "tcp_gdo"
  | .udp, .native => "udp_gdo"
  | .tcp, .foreign => "tcp_foreign"
  | .udp, .foreign => "udp_foreign"

/-- The kind of a given name, in any case of its ASCII letters. The native
class may be left out. -/
def ofName? (text : String) : Option PortKind :=
  match text.map Char.toLower with
  | "tcp_gdo" | "tcp" => some ⟨.tcp, .native⟩
  | "udp_gdo" | "udp" => some ⟨.udp, .native⟩
  | "tcp_foreign" => some ⟨.tcp, .foreign⟩
  | "udp_foreign" => some ⟨.udp, .foreign⟩
  | _ => none

/-- A kind is read from its full name. -/
@[simp] theorem ofName?_name (k : PortKind) : ofName? k.name = some k := by
  obtain ⟨transport, service⟩ := k
  cases transport <;> cases service <;> decide +kernel

end PortKind

instance : ToString PortKind := ⟨PortKind.name⟩

end PortMapper
