import PortMapper.Bytes

/-!
# Streams

What one side of a connection receives: some bytes, and then the end of the
connection, or nothing for as long as the receiver waits, or a fault of the
system.
-/

namespace PortMapper

/-- What the system says when it cannot do what it is asked for. -/
structure SystemFault where
  /-- The number that the system gives the fault. -/
  code : Nat
  description : String
deriving DecidableEq, Repr

namespace SystemFault

def connectionRefused : SystemFault := ⟨111, "Connection refused"⟩

def networkUnreachable : SystemFault := ⟨101, "Network is unreachable"⟩

/-- The wording of a fault. -/
def message (f : SystemFault) : String := s!"{f.description} (os error {f.code})"

end SystemFault

/-- What comes after the bytes of a stream. -/
inductive Ending where
  | closed
  | stalled
  | broken (fault : SystemFault)
deriving DecidableEq, Repr

/-- What is received on a connection. -/
structure Stream where
  bytes : Bytes
  ending : Ending
deriving DecidableEq, Repr

/-- Takes exactly `n` bytes from a stream; if it has fewer, what came instead
of the missing ones is the answer. -/
def Stream.take (s : Stream) (n : Nat) : Except Ending (Bytes × Stream) :=
  if n ≤ s.bytes.length then .ok (s.bytes.take n, { s with bytes := s.bytes.drop n })
  else .error s.ending

/-- What stands at the beginning of a stream is taken from it. -/
@[simp] theorem Stream.take_append (bs rest : Bytes) (ending : Ending) :
    Stream.take ⟨bs ++ rest, ending⟩ bs.length = .ok (bs, ⟨rest, ending⟩) := by
  simp [Stream.take]

end PortMapper
