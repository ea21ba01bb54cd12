import PortMapper.Neighbours

/-!
# Changes of the neighbours

What may be done to a table of neighbours is a change: somebody is heard from,
announces its addresses, or is forgotten. `Neighbours.change` makes one change and
`Neighbours.changeAll` makes them one after another, each at its own time.
-/

namespace PortMapper

namespace Neighbours

/-- What may be done to a table of neighbours. -/
inductive Change where
  | contact (address : Address)
  | announce (address : Address) (announced : List Address)
  | dropSilent (sweep : SweepProgress)
deriving DecidableEq, Repr

/-- The table after a change. -/
def change (t : Neighbours) (host : Host) (now : Nat) : Change → Neighbours
  | .contact a => (t.contact host a now).2
  | .announce a announced => (t.announce host a announced now).2
  | .dropSilent sweep => (t.dropSilent sweep now).2

/-- The table after some changes, each with its time. -/
def changeAll (t : Neighbours) (host : Host) (changes : List (Nat × Change)) : Neighbours :=
  changes.foldl (fun t c => t.change host c.1 c.2) t

end Neighbours

end PortMapper
