import PortMapper.Host.Interface
import PortMapper.Settings

/-!
# This host

A host is the list of its interfaces. It owns their addresses
(`Host.owns`), neighbours are the other hosts on its networks
(`Host.admits`), and each remote host sees it by one of its addresses
(`Host.addressFacing`). Loopback networks have no neighbours.
-/

namespace PortMapper

/-- The interfaces of this host. -/
structure Host where
  interfaces : List Interface := []
deriving DecidableEq, Repr

namespace Host

/-- The loopback interface that a host has if none is configured. -/
def loopbackInterface : Interface :=
  .ofAddress .localhost (.ofOctets 255 0 0 0) none

/-- The host with interfaces given by hand. It always has a loopback
interface, so that local clients can register. -/
def ofEntries (entries : List Settings.InterfaceEntry) : Host :=
  let interfaces := entries.map fun e => Interface.ofAddress e.address e.netmask e.broadcast
  if interfaces.any (·.loopback) then ⟨interfaces⟩ else ⟨interfaces ++ [loopbackInterface]⟩

/-- Whether an address is one of this host's. -/
def owns (h : Host) (a : Address) : Bool := h.interfaces.any (·.address == a)

/-- Whether an address is on one of this host's networks. -/
def reaches (h : Host) (a : Address) : Bool :=
  h.interfaces.any fun i => !i.loopback && i.contains a

/-- Whether an address can be a neighbour's. -/
def admits (h : Host) (a : Address) : Bool := !h.owns a && h.reaches a

/-- Our address on the network of `remote`. Failing that, it is our first
address that is not a loopback one, and failing that, our first. -/
def addressFacing (h : Host) (remote : Address) : Option Address :=
  ((h.interfaces.find? fun i => !i.loopback && i.contains remote)
    <|> (h.interfaces.find? fun i => !i.loopback)
    <|> h.interfaces.head?).map (·.address)

/-- Our addresses that are not loopback ones. -/
def externalAddresses (h : Host) : List Address :=
  (h.interfaces.filter fun i => !i.loopback).map (·.address)

/-! ## Neighbours -/

theorem admits_iff {h : Host} {a : Address} :
    h.admits a = true ↔ h.owns a = false ∧ h.reaches a = true := by
  rw [admits, Bool.and_eq_true, Bool.not_eq_true']

/-- A host faces a neighbour by its address on the first of its networks that the
neighbour is on. -/
theorem exists_find_of_admits {h : Host} {a : Address} (ha : h.admits a = true) :
    ∃ i ∈ h.interfaces,
      h.interfaces.find? (fun i => !i.loopback && i.contains a) = some i ∧
        h.addressFacing a = some i.address ∧ i.loopback = false ∧ i.contains a = true := by
  have hreaches : h.reaches a = true := (admits_iff.mp ha).2
  obtain ⟨i, hfind⟩ : ∃ i, h.interfaces.find? (fun i => !i.loopback && i.contains a) = some i :=
    Option.isSome_iff_exists.mp (by rwa [List.find?_isSome, ← List.any_eq_true])
  have hi := List.find?_some hfind
  rw [Bool.and_eq_true, Bool.not_eq_true'] at hi
  refine ⟨i, List.mem_of_find?_eq_some hfind, hfind, ?_, hi⟩
  rw [addressFacing, hfind]
  rfl

/-- A host faces its neighbours by an address of its own, on the network that
it has with them. -/
theorem addressFacing_of_admits {h : Host} {a : Address} (ha : h.admits a = true) :
    ∃ i ∈ h.interfaces, h.addressFacing a = some i.address ∧ i.loopback = false ∧
      i.contains a = true := by
  obtain ⟨i, hi, -, hfacing⟩ := exists_find_of_admits ha
  exact ⟨i, hi, hfacing⟩

end Host

end PortMapper
