import Hexfield.CommandLine.Run

/-!
The command line: it reads files, prints the report and exits.
-/

namespace Hexfield
namespace CommandLine

def readFile (path : String) : IO (Option String) :=
  try some <$> IO.FS.readFile path
  catch _ => pure none

end CommandLine
end Hexfield

def main (arguments : List String) : IO UInt32 := do
  let anySeed : IO Nat := IO.rand 0 (UInt64.size - 1)
  let outcome ← Hexfield.CommandLine.run Hexfield.CommandLine.readFile anySeed arguments
  IO.print outcome.output
  pure outcome.exitCode.toUInt32
