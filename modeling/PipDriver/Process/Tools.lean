import PipDriver.Process.Tools.Move
import PipDriver.Process.Tools.Printing

/-!
The programs of the host that start no other program.
-/

namespace PipDriver

namespace Tools

def work (tool : Tool) (process : Process) (machine : Machine) : Work :=
  match tool with
  | .echo => (echo process.words.tail, machine)
  | .printf => (printf process, machine)
  | .printWorkingFolder => (printFolder process, machine)
  | .printVariables => (printVariables process, machine)
  | .concatenate => concatenate process machine
  | .changeOwner => (changeOwner process machine, machine)
  | .switchUser => (switchUser process machine, machine)
  | .fail => ({ code := 1 }, machine)
  | .sleep => sleep process machine
  | .baseName => (baseName process, machine)
  | .folderName => (folderName process, machine)
  | .makeFolder => makeFolder process machine
  | .removeFolder => removeFolder process machine
  | .remove => remove process machine
  | .touch => touch process machine
  | .install => install process machine
  | .move => moveFiles process machine
  | .succeed => ({}, machine)
  | .shell => ({}, machine)
  | .environment => ({}, machine)

def run (tool : Tool) (process : Process) (machine : Machine) : Ending × Machine :=
  let (report, machine) := work tool process machine
  if report.isStuck process.channels machine then
    let complaint := complain process ("write error: " ++ Fault.notOpen.reason)
    (.exited 1, complaint.deliver process.channels machine)
  else (.exited report.code, report.deliver process.channels machine)

end Tools

end PipDriver
