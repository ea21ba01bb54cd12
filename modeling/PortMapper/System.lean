import PortMapper.Bytes

/-!
# The system

What a process finds around it: the variables of its environment, the
directory that it works in, and what the system lets it make and write.
-/

namespace PortMapper

/-- The variables of the environment. -/
abbrev Environment := String → Option String

/-- A place in a tree of directories: the names on the way to it from the
root. -/
abbrev Place := List String

/-- What becomes of bytes that are written as a file. -/
inductive Writing where
  /-- The file cannot be opened. -/
  | refused
  /-- Writing breaks off unless it is done after so many bytes. -/
  | upTo (count : Nat)
  | whole
deriving DecidableEq, Repr

/-- What a process finds around it. -/
structure System where
  environment : Environment := fun _ => none
  workingDirectory : Place := []
  /-- Whether a directory may be made at a place. -/
  mayMake : Place → Bool := fun _ => true
  /-- What becomes of a file written at a place. -/
  writing : Place → Writing := fun _ => .whole

/-- The bytes that are written of some bytes, if the file can be opened. -/
def Writing.keep : Writing → Bytes → Option Bytes
  | .refused, _ => none
  | .upTo count, bytes => some (bytes.take count)
  | .whole, bytes => some bytes

/-- The directory for files that need not last. -/
def System.temporaryDirectory (system : System) : String :=
  (system.environment "TMPDIR").getD "/tmp"

end PortMapper
