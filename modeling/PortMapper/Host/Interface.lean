import PortMapper.Address.Dotted

/-!
# Interfaces

An interface is one IPv4 address of this host with the mask of the network
it is on. `Interface.network` is the network's lowest address, and
`Interface.hosts` lists the addresses that a host on it may have: all but
the lowest and the highest, whatever bits the mask has set.
-/

namespace PortMapper

/-- An address of this host and the network it is on. -/
structure Interface where
  name : String
  address : Address
  netmask : Address
  /-- The address that reaches every host on the network, if there is one. -/
  broadcast : Option Address
  loopback : Bool
deriving DecidableEq, Repr

namespace Interface

/-- An interface named for its address, and a loopback one if its address is. -/
def ofAddress (address netmask : Address) (broadcast : Option Address) : Interface :=
  { name := toString address, address, netmask, broadcast,
    loopback := address.isLoopback }

/-- The lowest address of the network. -/
def network (i : Interface) : Address := ⟨i.address.bits &&& i.netmask.bits⟩

/-- Whether an address is on the network. -/
def contains (i : Interface) (a : Address) : Bool :=
  a.bits &&& i.netmask.bits == i.address.bits &&& i.netmask.bits

/-- How many addresses there are for hosts. -/
def hostCount (i : Interface) : Nat := (~~~i.netmask.bits).toNat + 1 - 2

/-- The address of the host with a given number, the first having number 1. -/
def host (i : Interface) (number : Nat) : Address :=
  ⟨(i.network.bits.toNat + number).toUInt32⟩

/-- The first `n` addresses for hosts, or all if there are no more. -/
def firstHosts (i : Interface) (n : Nat) : List Address :=
  (List.range' 1 (min n i.hostCount)).map i.host

/-- The addresses for hosts, in ascending order. -/
def hosts (i : Interface) : List Address := i.firstHosts i.hostCount

end Interface

end PortMapper
