import PortMapper.Mapper
import PortMapper.Sweep

/-!
# Housekeeping

A daemon looks after its neighbours at every tick (`Mapper.tick`): it forgets
those that are gone, and starts a sweep if one is due and nothing waits to be
sent. A sweep is in flight while its probes wait and for some time after it
started, since answers may still come; meanwhile no neighbour is forgotten.
-/

namespace PortMapper

/-- For how long the answers to a sweep may come, in seconds. -/
def sweepGraceSecs : Nat := 10

namespace Mapper

/-- How far the latest sweep has got. -/
def sweepProgress (m : Mapper) (now : Nat) : SweepProgress :=
  let recent := m.sweepStarted.any fun started => now - started < oneSecond * sweepGraceSecs
  { started := m.sweepStarted, inFlight := recent || 0 < m.outbox.pendingProbes }

/-- The probes of a sweep. -/
def probes (m : Mapper) : List (Endpoint × Bytes) :=
  (Sweep.plan m.host m.probing).map fun (ours, target) =>
    (⟨target, m.port⟩, (Request.probe ours target).frame)

/-- Starts a sweep, and tells how many probes it has. -/
def beginSweep (m : Mapper) (now : Nat) : Nat × Mapper :=
  let probes := m.probes
  (probes.length,
    { m with outbox := m.outbox.postProbes probes, sweepStarted := some now })

/-- Forgets the neighbours that are gone, and tells how many they were. -/
def dropSilent (m : Mapper) (now : Nat) : Nat × Mapper :=
  let (n, neighbours) := m.neighbours.dropSilent (m.sweepProgress now) now
  (n, { m with neighbours })

/-- Whether it is time for a sweep. -/
def sweepDue (m : Mapper) (now : Nat) : Bool :=
  m.probing.enabled && m.outbox.isEmpty &&
    m.sweepStarted.all fun started => oneSecond * m.probing.intervalSecs.toNat ≤ now - started

/-- What a daemon does at every tick. -/
def tick (m : Mapper) (now : Nat) : Mapper :=
  let m := (m.dropSilent now).2
  if m.sweepDue now then (m.beginSweep now).2 else m

end Mapper

end PortMapper
