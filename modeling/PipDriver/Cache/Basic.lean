import PipDriver.Digest
import PipDriver.Storage.AtomicFile

/-!
Resources named by URIs. They lie below one folder, and copies of them are kept below another at the same
relative path.
-/

namespace PipDriver

structure Cache where
  root : Path
  folder : Path
deriving DecidableEq, Repr

namespace Cache

def staysInside : Path.Component → Bool
  | .name _ => true
  | .current => true
  | .root => false
  | .parent => false

def relative (uri : Text) : Except UriFault Path :=
  match remoteScheme.isPrefixOf? uri with
  | none => .error .wrongScheme
  | some [] => .error .noPath
  | some rest => if (Path.mk rest).components.all staysInside then .ok (.mk rest) else .error .outside

def below (folder : Path) (uri : Text) : Except Failure Path :=
  match relative uri with
  | .ok path => .ok (folder.join path)
  | .error cause => .error (.badUri uri cause)

def resourcePath (cache : Cache) (uri : Text) : Except Failure Path := below cache.root uri

def copyPath (cache : Cache) (uri : Text) : Except Failure Path := below cache.folder uri

def kept (cache : Cache) (world : World) (uri : Text) : Except Failure (Option Path) :=
  (cache.copyPath uri).map fun path => if world.isFile path then some path else none

def fetch (cache : Cache) (uri : Text) : Step (Option Path) := do
  let resource ← Step.check fun _ => cache.resourcePath uri
  if ← Step.look fun world => world.isFile resource then
    let path ← Step.check fun _ => cache.copyPath uri
    AtomicFile.copy resource path
    return some path
  else return none

def digestAt (world : World) (path : Path) : Except Failure Text :=
  match world.read path with
  | .ok bytes => .ok (Digest.ofBytes bytes)
  | .error fault => .error (.file path fault)

def resourceDigest (cache : Cache) (world : World) (uri : Text) : Except Failure (Option Text) :=
  match cache.resourcePath uri with
  | .error failure => .error failure
  | .ok path => if world.isFile path then (digestAt world path).map some else .ok none

end Cache

end PipDriver
