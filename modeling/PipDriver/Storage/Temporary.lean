import PipDriver.World

/-!
Temporary files: an empty file of a new name in a folder, and its removal.
-/

namespace PipDriver.Temporary

def pathIn (world : World) (folder : Path) (name : Bytes) : Path := (world.absolute folder).join ⟨name⟩

def nameFor? (world : World) (other : Path) (start ending : Bytes) : Option Bytes :=
  world.disk.freshName? world.host.firstSerial (Route.ofBytes other.bytes).names start ending

def make (reported folder other : Path) (start ending : Bytes) : Step Path := fun world =>
  match nameFor? world other start ending with
  | none => (.error (.file reported (.unplaced .taken folder)), world)
  | some name =>
    let path := pathIn world folder name
    match world.disk.makeFile world.host.folder path with
    | .ok disk => (.ok path, { world with disk, events := world.events ++ [.made path] })
    | .error fault => (.error (.file reported (.unplaced fault path)), world)

def remove (path : Path) (world : World) : World :=
  match world.disk.removeFile world.host.folder path with
  | .ok disk => { world with disk }
  | .error _ => world

end PipDriver.Temporary
