import PipDriver.World

/-!
Whether pip will be able to write its log at a path.
-/

namespace PipDriver.LogFile

def folderOf (path : Path) : Path :=
  match path.parent? with
  | none => "."
  | some parent => if parent.isEmpty then "." else parent

def check (world : World) (path : Path) : Except LogFault Unit :=
  if path.isEmpty then .error .noPath
  else match world.disk.entryAt world.host.folder path with
    | .ok .folder => .error .folder
    | .ok _ => .ok ()
    | .error .missing => if world.isFolder (folderOf path) then .ok () else .error .noParent
    | .error fault => .error (.refused fault)

end PipDriver.LogFile
