import StubResolver.CommandLine
import StubResolver.Rehearsal

/-!
The program. It has no sockets at hand, so it runs as on a machine without a network
interface: address literals and static entries are answered, and whatever needs a nameserver
says that there is no way to it.
-/

set_option autoImplicit false

def main (args : List String) : IO UInt32 := do
  let world := StubResolver.Rehearsal.World.start .down [] []
  let (outcome, _) := StubResolver.CommandLine.run (StubResolver.Rehearsal.sockets none) args world
  IO.print outcome.output
  IO.eprint outcome.diagnostics
  return UInt32.ofNat outcome.exitCode
