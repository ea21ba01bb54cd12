import PortMapper.Host

/-!
# Sweeps

A sweep probes the networks of this host for neighbours. Each interface is
dealt with in one way (`Approach.of`): the whole network at once by its
broadcast address, host by host if the network is small enough, or else only
at the addresses given in the settings. `Sweep.plan` lists what is probed,
and from which of our addresses.
-/

namespace PortMapper

/-- How the network of an interface is probed. -/
inductive Approach where
  | broadcast (address : Address)
  | enumerate
  | given (addresses : List Address)
  | skip
deriving DecidableEq, Repr

/-- The way of probing the network of an interface. -/
def Approach.of (i : Interface) (s : Settings.Probing) : Approach :=
  if i.loopback then .skip
  else match if s.broadcast then i.broadcast else none with
    | some address => .broadcast address
    | none =>
      if 0 < i.hostCount ∧ i.hostCount ≤ s.maxUnicastHosts.toNat then .enumerate
      else match s.peers.filter fun p => i.contains p && p != i.address with
        | [] => .skip
        | peers => .given peers

namespace Sweep

/-- The addresses probed from an interface. -/
def targets (i : Interface) (s : Settings.Probing) : List Address :=
  match Approach.of i s with
  | .broadcast address => [address]
  | .enumerate => i.hosts.filter (· != i.address)
  | .given addresses => addresses
  | .skip => []

/-- Our address and the address probed, for each probe of a sweep. -/
def plan (h : Host) (s : Settings.Probing) : List (Address × Address) :=
  h.interfaces.flatMap fun i => (targets i s).map (i.address, ·)

end Sweep

end PortMapper
