import PortMapper.Host

/-!
# Neighbours

The hosts on our networks that run a daemon, the one heard from last first.
A neighbour is known by the address it was first heard from and by further
addresses that it has announced. `Neighbours.contact` records that an address
was heard from, `Neighbours.announce` that a host also answers to others, and
`Neighbours.dropSilent` forgets those not heard from for half an hour. Times
are in nanoseconds (`oneSecond`).
-/

namespace PortMapper

/-- A second, in the unit of all times. -/
def oneSecond : Nat := 1000000000

/-- How long a neighbour may be silent. -/
def silenceLimitSecs : Nat := 30 * 60

/-- A host that runs a daemon. -/
structure Neighbour where
  address : Address
  /-- Other addresses that the host has announced. -/
  aliases : List Address
  lastHeard : Nat
deriving DecidableEq, Repr

namespace Neighbour

/-- Whether an address is one of the neighbour's. -/
def answersTo (n : Neighbour) (a : Address) : Bool := n.address == a || n.aliases.contains a

/-- Adds an alias unless it is there already. -/
def addAlias (n : Neighbour) (a : Address) : Neighbour :=
  if n.aliases.contains a then n else { n with aliases := n.aliases ++ [a] }

/-- Adds to the host heard at `a` the addresses of another record of it. -/
def absorb (n : Neighbour) (a : Address) (merged : Neighbour) : Neighbour :=
  (merged.address :: merged.aliases).foldl (fun n b => if b = a then n else n.addAlias b) n

/-- How long the neighbour has been silent. -/
def silence (n : Neighbour) (now : Nat) : Nat := now - n.lastHeard

end Neighbour

/-- How far the latest sweep has got. -/
structure SweepProgress where
  /-- When the latest sweep started. -/
  started : Option Nat := none
  /-- Whether probes of it are still to be sent or answers to come. -/
  inFlight : Bool := false
deriving DecidableEq, Repr

/-- The neighbours of this host. -/
structure Neighbours where
  records : List Neighbour := []
deriving DecidableEq, Repr

namespace Neighbours

/-- The record of the host at `a`, and the other records. -/
def select (t : Neighbours) (a : Address) (now : Nat) : Neighbour × List Neighbour :=
  match t.records.find? (·.answersTo a) with
  | some n => (n, t.records.eraseP (·.answersTo a))
  | none => (⟨a, [], now⟩, t.records)

/-- Adds an announced address to the host heard at `a`, given with the other
records. One of them that answers to the address is of the same host and is
folded in. -/
def fold (host : Host) (a : Address) (t : Neighbour × List Neighbour) (announced : Address) :
    Neighbour × List Neighbour :=
  if announced = a ∨ host.owns announced then t
  else
    let (first, rest) := t
    match rest.find? (·.answersTo announced) with
    | some merged =>
      ((first.absorb a merged).addAlias announced, rest.eraseP (·.answersTo announced))
    | none => (first.addAlias announced, rest)

/-- Records that a host was heard from at `a` and announced its addresses, and
moves it to the front. Our own addresses and those on no network of ours are
ignored; whether `a` was not is the answer. -/
def announce (t : Neighbours) (host : Host) (a : Address) (announced : List Address) (now : Nat) :
    Bool × Neighbours :=
  if host.admits a then
    let (n, rest) := t.select a now
    let (first, others) := announced.foldl (fold host a) ({ n with lastHeard := now }, rest)
    (true, ⟨first :: others⟩)
  else (false, t)

/-- Records that a host was heard from at `a`. -/
def contact (t : Neighbours) (host : Host) (a : Address) (now : Nat) : Bool × Neighbours :=
  t.announce host a [] now

/-- Whether a neighbour has been silent for too long, and also since the
latest sweep asked it. -/
def isGone (sweep : SweepProgress) (now : Nat) (n : Neighbour) : Bool :=
  oneSecond * silenceLimitSecs < n.silence now && sweep.started.all (n.lastHeard < ·)

/-- Forgets the neighbours that are gone, unless a sweep is in flight, and
tells how many they were. -/
def dropSilent (t : Neighbours) (sweep : SweepProgress) (now : Nat) : Nat × Neighbours :=
  if sweep.inFlight then (0, t)
  else
    let kept := t.records.filter fun n => !isGone sweep now n
    (t.records.length - kept.length, ⟨kept⟩)

/-- One address for each neighbour, the one heard from last first. -/
def addresses (t : Neighbours) : List Address := t.records.map (·.address)

end Neighbours

end PortMapper
