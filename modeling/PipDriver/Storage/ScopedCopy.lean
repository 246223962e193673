import PipDriver.Storage.Temporary

/-!
Copies of a file for another user. A copy lasts as long as the step that uses it and is removed however
that step ends.
-/

namespace PipDriver

abbrev Ownership := Path → Text → Step Unit

namespace ScopedCopy

def nameStart : Bytes := "pipctl-req-"

def nameEnding : Bytes := ".txt"

def fill (source copy : Path) : Step Unit := do
  let entry ← Step.check fun world =>
    (world.disk.entryAt world.host.folder source).mapError (.file source)
  match entry with
  | .file file => Step.change copy fun disk base => disk.write base copy file
  | _ => throw (.file source .notRegular)

def handOver (ownership : Ownership) (path : Path) (user : Text) : Step Unit := do
  let bytes ← Step.look fun world => world.read? path
  Step.record (.ownerChanged path user bytes)
  Step.byOthers (ownership path user)

def useIn (folder source : Path) (user : Text) (ownership : Ownership) (use : Path → Step α) :
    Step α := do
  let copy ← Temporary.make folder folder source nameStart nameEnding
  Step.thenTidy
    (do
      fill source copy
      handOver ownership copy user
      use copy)
    (Temporary.remove copy)

def use (source : Path) (user : Text) (ownership : Ownership) (use : Path → Step α) : Step α := do
  let folder ← Step.look World.temporaryFolder
  useIn folder source user ownership use

end ScopedCopy

end PipDriver
