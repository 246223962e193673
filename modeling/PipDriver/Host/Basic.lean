import PipDriver.Disk.Basic
import PipDriver.Path

/-!
The surroundings of a run: the working folder, the environment variables, the accounts, and the programs that
the host brings along besides scripts.
-/

namespace PipDriver

inductive Tool
  | shell
  | environment
  | switchUser
  | echo
  | printf
  | printWorkingFolder
  | printVariables
  | concatenate
  | changeOwner
  | succeed
  | fail
  | sleep
  | baseName
  | folderName
  | makeFolder
  | removeFolder
  | remove
  | touch
  | install
  | move
deriving DecidableEq, Repr

structure Account where
  name : Text
  number : Nat
  home : Text
deriving DecidableEq, Repr

structure Host where
  folder : Location
  environment : List (Text × Bytes) := []
  programs : List (Location × Tool) := []
  accounts : List Account := []
  groups : List (Text × Nat) := []
  /-- The names of temporary files are numbered from here on. -/
  firstSerial : Nat := 0

namespace Host

def valueOf? (host : Host) (name : Text) : Option Bytes := host.environment.lookup name

def pathBytes (location : Location) : Bytes :=
  if location = [] then [Bytes.slash] else location.flatMap fun name => Bytes.slash :: name

def home (host : Host) : Path :=
  match host.valueOf? "HOME" with
  | some bytes => if bytes = [] then "/root" else ⟨bytes⟩
  | none => "/root"

def workingPath (host : Host) : Path := ⟨pathBytes host.folder⟩

end Host

end PipDriver
