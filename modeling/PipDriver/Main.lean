import PipDriver.CommandLine.Run
import PipDriver.Host.Scene
import PipDriver.Host.Services

/-!
The command line as a program. The host that it works on is described on the standard input, so a run can be
tried out before anything is touched.
-/

namespace PipDriver

partial def readAll (input : IO.FS.Stream) (before : String) : IO String := do
  let line ← input.getLine
  if line.isEmpty then return before else readAll input (before ++ line)

end PipDriver

def main (words : List String) : IO UInt32 := do
  let scene ← PipDriver.readAll (← IO.getStdin) ""
  let (exit, _) := PipDriver.CommandLine.run PipDriver.Host.services (words.map String.toList)
    (PipDriver.World.ofScene scene.toList)
  (← IO.getStdout).putStr (String.ofList exit.output)
  (← IO.getStderr).putStr (String.ofList exit.diagnostics)
  return exit.code.toUInt32
