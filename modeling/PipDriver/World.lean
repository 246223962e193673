import PipDriver.Disk.Change
import PipDriver.Failure
import PipDriver.Host.Basic
import PipDriver.Invocation

/-!
The world that a request is carried out in, the steps that change it, and a record of what was asked of
others on the way.
-/

namespace PipDriver

inductive Event
  | fetched (uri : Text)
  | ownerChanged (path : Path) (user : Text) (bytes : Option ByteArray)
  | invoked (invocation : Invocation) (requirements : Option ByteArray)
  /-- A temporary file was made at a path. -/
  | made (path : Path)
  /-- Others had the disk: as they found it, and as they left it. -/
  | lent (found left : Disk)

structure World where
  disk : Disk
  host : Host
  events : List Event := []

namespace World

def isFile (world : World) (path : Path) : Bool := world.disk.isFile world.host.folder path

def isFolder (world : World) (path : Path) : Bool := world.disk.isFolder world.host.folder path

def isExecutable (world : World) (path : Path) : Bool :=
  world.disk.isExecutable world.host.folder path

def read (world : World) (path : Path) : Except Fault ByteArray :=
  world.disk.read world.host.folder path

def read? (world : World) (path : Path) : Option ByteArray := (world.read path).toOption

def temporaryFolder (world : World) : Path :=
  match world.host.valueOf? "TMPDIR" with
  | some bytes => ⟨bytes⟩
  | none => "/tmp"

/-- The path seen from the root, whatever the working folder. -/
def absolute (world : World) (path : Path) : Path :=
  if path.isAbsolute then path else ⟨world.host.workingPath.bytes ++ Bytes.slash :: path.bytes⟩

end World

abbrev Step (α : Type) := ExceptT Failure (StateM World) α

namespace Step

def carryOut (step : Step α) (world : World) : Except Failure α × World := step world

def look (view : World → α) : Step α := fun world => (.ok (view world), world)

def check (view : World → Except Failure α) : Step α := fun world => (view world, world)

def record (event : Event) : Step Unit := fun world =>
  (.ok (), { world with events := world.events ++ [event] })

def change (path : Path) (operation : Disk → Location → Except Fault Disk) : Step Unit := fun world =>
  match operation world.disk world.host.folder with
  | .ok disk => (.ok (), { world with disk })
  | .error fault => (.error (.file path fault), world)

def read (path : Path) : Step ByteArray :=
  check fun world => (world.read path).mapError (.file path)

/-- A step that others take. The disk is all they can reach, and what they did to it is taken down. -/
def byOthers (step : Step α) : Step α := fun world =>
  let (answer, changed) := step world
  let events := world.events ++ [.lent world.disk changed.disk]
  (answer, { world with disk := changed.disk, events })

def thenTidy (step : Step α) (tidy : World → World) : Step α := fun world =>
  let (answer, changed) := step world
  (answer, tidy changed)

end Step

end PipDriver
