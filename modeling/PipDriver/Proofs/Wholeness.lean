import PipDriver.Proofs.Acquisition
import PipDriver.Proofs.Ancestry

/-!
A file is written whole or not at all. It takes the place that its path names, a link there included, or everything
stays but for the missing folders above it.
-/

namespace PipDriver

open Disk

namespace AtomicFile

section Parts

variable {world : World} {path : Path} {location : Location} {bytes : ByteArray}

def ThroughPlace (world : World) (path : Path) : Prop :=
  ∃ location target, (prepared world path).moveTarget world.host.folder path = .ok location ∧
    (prepared world path).get? location = some (.link target) ∧
    ((prepared world path).erase location).find world.host.folder path false = .error .missing

structure Placed (world : World) (path : Path) (bytes : ByteArray) (location : Location) (after : World) : Prop where
  names : ∃ folder name, location = folder ++ [name] ∧
    (prepared world path).IsSpot world.host.folder path folder name
  file : after.disk.get? location = some (.file { bytes })
  others : ∀ other, other ≠ location → after.disk.get? other = (prepared world path).get? other
  replaced : ∀ was entry, world.disk.find world.host.folder path false = .ok (.occupied was entry) →
    was = location ∧ entry ≠ .folder
  reads : ¬ThroughPlace world path → after.contents? path = some bytes
  lost : ThroughPlace world path → after.contents? path = none

end Parts

section Links

attribute [local instance] bytesEquality

end Links

end AtomicFile

end PipDriver
