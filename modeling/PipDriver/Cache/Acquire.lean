import PipDriver.Cache.Basic

/-!
Obtaining a requirements file. A copy is used as long as its digest is that of the resource, and is fetched
anew otherwise.
-/

namespace PipDriver.Cache

def fetchRecorded (cache : Cache) (uri : Text) : Step (Option Path) := do
  Step.record (.fetched uri)
  cache.fetch uri

def isOutdated (cache : Cache) (world : World) (uri : Text) (copy : Path) : Except Failure Bool :=
  match cache.resourceDigest world uri, digestAt world copy with
  | .error failure, _ => .error failure
  | _, .error failure => .error failure
  | .ok resource, .ok digest => .ok (resource ≠ some digest)

def currentCopy (cache : Cache) (uri : Text) : Step (Option Path) := do
  let copy ← match ← Step.check fun world => cache.kept world uri with
    | some path => pure (some path)
    | none => cache.fetchRecorded uri
  match copy with
  | none => return none
  | some path =>
    if ← Step.check fun world => cache.isOutdated world uri path then cache.fetchRecorded uri
    else return some path

def acquire (cache : Cache) (source : Source) : Step (Option Path) :=
  match source with
  | .onHost path => pure (some path)
  | .remote uri => cache.currentCopy uri

end PipDriver.Cache
