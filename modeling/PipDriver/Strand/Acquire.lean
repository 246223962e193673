import PipDriver.Cache.Acquire
import PipDriver.Strand.Basic

/-!
Acquiring a requirements file as a strand: each look at the disk and each change of it is an operation of its
own, so that several may acquire files through one cache at the same time.
-/

namespace PipDriver.Strand

def tryFolder (path : Path) : Step (Except Fault Unit) := fun world =>
  match world.disk.makeFolder world.host.folder path with
  | .ok disk => (.ok (.ok ()), { world with disk })
  | .error fault => (.ok (.error fault), world)

def settleFor (reported path : Path) (fault : Fault) : Strand Unit := do
  if ← atom (Step.look fun world => world.isFolder path) then return ()
  else .ended (.error (.file reported fault))

def makeFolders (reported path : Path) : Strand Unit :=
  if path.isEmpty then return ()
  else do
    match ← atom (tryFolder path) with
    | .ok () => return ()
    | .error fault =>
      if fault ≠ .missing then settleFor reported path fault
      else match path.parent? with
        | none => .ended (.error (.file reported fault))
        | some parent =>
          if parent.bytes.length < path.bytes.length then do
            makeFolders reported parent
            match ← atom (tryFolder path) with
            | .ok () => return ()
            | .error again => settleFor reported path again
          else .ended (.error (.file reported fault))
termination_by path.bytes.length

def prepareFolder (path : Path) : Strand Unit :=
  match path.parent? with
  | none => return ()
  | some parent => makeFolders parent parent

def makeTemporary (path : Path) : Step Path := do
  let folder ← Step.look fun world => AtomicFile.folderOf world path
  Temporary.make path folder path AtomicFile.nameStart AtomicFile.nameEnding

def fill (path : Path) (bytes : ByteArray) : Nat → Strand Unit
  | 0 => atom (Step.change path fun disk base => disk.write base path { bytes })
  | left + 1 => do
    atom (Step.change path fun disk base => disk.write base path { bytes := bytes.extract 0 (bytes.size - (left + 1)) })
    fill path bytes left

def replace (path temporary : Path) (bytes : ByteArray) : Strand Unit :=
  orTidy
    (do
      fill temporary bytes bytes.size
      atom (AtomicFile.moveTo temporary path))
    (Temporary.remove temporary)

def write (path : Path) (bytes : ByteArray) : Strand Unit := do
  prepareFolder path
  let temporary ← atom (makeTemporary path)
  replace path temporary bytes

def copy (source target : Path) : Strand Unit := do
  let bytes ← atom (Step.read source)
  write target bytes

variable (cache : Cache) (uri : Text)

def fetch : Strand (Option Path) := do
  atom (Step.record (.fetched uri))
  let resource ← .ended (cache.resourcePath uri)
  if ← atom (Step.look fun world => world.isFile resource) then
    let path ← .ended (cache.copyPath uri)
    copy resource path
    return some path
  else return none

def resourceDigest : Strand (Option Text) := do
  let path ← .ended (cache.resourcePath uri)
  if ← atom (Step.look fun world => world.isFile path) then
    let digest ← atom (Step.check fun world => Cache.digestAt world path)
    return some digest
  else return none

def isOutdated (path : Path) : Strand Bool := do
  let resource ← resourceDigest cache uri
  let digest ← atom (Step.check fun world => Cache.digestAt world path)
  return resource ≠ some digest

def kept : Strand (Option Path) := do
  let path ← .ended (cache.copyPath uri)
  if ← atom (Step.look fun world => world.isFile path) then return some path
  else return none

def keptOrFetched : Strand (Option Path) := do
  match ← kept cache uri with
  | some path => return some path
  | none => fetch cache uri

def current (path : Path) : Strand (Option Path) := do
  if ← isOutdated cache uri path then fetch cache uri
  else return some path

/-- What acquiring a resource does, one operation at a time. -/
def acquire : Strand (Option Path) := do
  match ← keptOrFetched cache uri with
  | none => return none
  | some path => current cache uri path

end PipDriver.Strand
