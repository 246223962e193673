import PipDriver.Storage.Temporary

/-!
Writing a file in one step: the bytes go to a new file in the same folder, which is then moved to its
path. Nobody sees a file half written.
-/

namespace PipDriver.AtomicFile

def nameStart : Bytes := ".pipctl-"

def nameEnding : Bytes := ".tmp"

def prepareFolder (path : Path) : Step Unit := fun world =>
  match path.parent? with
  | none => (.ok (), world)
  | some parent =>
    match world.disk.makeFolders world.host.folder parent with
    | (.ok (), disk) => (.ok (), { world with disk })
    | (.error fault, disk) => (.error (.file parent fault), { world with disk })

def folderOf (world : World) (path : Path) : Path := (path.parent?).getD world.temporaryFolder

def moveTo (source target : Path) : Step Unit :=
  Step.change target fun disk base =>
    match disk.find base source false with
    | .ok (.occupied location _) => disk.move base location target
    | .ok (.vacant _ _ _) => .error .missing
    | .error fault => .error fault

def write (path : Path) (bytes : ByteArray) : Step Unit := do
  prepareFolder path
  let folder ← Step.look fun world => folderOf world path
  let temporary ← Temporary.make path folder path nameStart nameEnding
  Step.thenTidy
    (do
      Step.change temporary fun disk base => disk.write base temporary { bytes }
      moveTo temporary path)
    (Temporary.remove temporary)

def copy (source target : Path) : Step Unit := do
  let bytes ← Step.read source
  write target bytes

end PipDriver.AtomicFile
