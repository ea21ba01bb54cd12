import PortMapper.CommandLine.Program

/-!
# The client's program

The program carries out one command and ends. It is linked with no network,
and can reach no daemon.
-/

namespace PortMapper.CommandLine

/-- Writes what a program has written, and ends as it has. -/
def Transcript.replay (t : Transcript) : IO UInt32 := do
  (← IO.getStdout).putStr t.output
  (← IO.getStderr).putStr t.errors
  return t.exitCode.toUInt32

end PortMapper.CommandLine

open PortMapper in
def main (args : List String) : IO UInt32 :=
  let env : CommandLine.Surroundings Unit :=
    { network := isolated, services := fun _ => none, ourAddress := fun _ => none }
  (CommandLine.run env args ()).1.replay
