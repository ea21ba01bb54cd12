import PortMapper.PortKind

/-!
# Ports in use

The holder of a registered name is taken to be gone once its port can be
bound again. A vacancy answers, for a port and its transport, whether nothing
holds it; `bindable` is the vacancy of a host on which given ports are held.
-/

namespace PortMapper

/-- A port of this host, for one transport. -/
structure PortUse where
  port : UInt32
  transport : Transport
deriving DecidableEq, Repr

/-- Tells whether a port is free. -/
abbrev Vacancy := PortUse → Bool

/-- The largest port number. -/
def maxPort : UInt32 := 65535

/-- A port can be bound if its number is one and nothing of the same
transport holds it. -/
def bindable (held : List PortUse) : Vacancy := fun use =>
  use.port ≤ maxPort && !held.contains use

end PortMapper
