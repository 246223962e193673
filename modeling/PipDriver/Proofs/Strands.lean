import PipDriver.Proofs.Acquisition
import PipDriver.Strand.Acquire

/-!
A strand that nobody comes between is the step that it is made of.
-/

namespace PipDriver.Strand

open Disk

variable {α β : Type}

theorem alone_bind (strand : Strand α) (next : α → Strand β) :
    (strand >>= next).alone = strand.alone >>= fun value => (next value).alone := by
  funext world
  rw [Step.bind_apply]
  induction strand generalizing world with
  | ended answer => cases answer <;> rfl
  | going change onward ih => exact ih world (change world)

@[simp] theorem alone_atom (step : Step α) : (atom step).alone = step := rfl

@[simp] theorem alone_pure (value : α) : (pure value : Strand α).alone = pure value := rfl

@[simp] theorem alone_ended (answer : Except Failure α) :
    (ended answer).alone = Step.check fun _ => answer := rfl

theorem alone_orTidy (strand : Strand α) (tidy : World → World) (world : World) :
    (strand.orTidy tidy).alone world = match strand.alone world with
      | (.ok value, after) => (.ok value, after)
      | (.error failure, after) => (.error failure, tidy after) := by
  induction strand generalizing world with
  | ended answer => cases answer <;> rfl
  | going change onward ih => exact ih world (change world)

section Folders

variable {path : Path} {world : World} {made : Disk} {fault : Fault} (reported : Path)

theorem tryFolder_of_ok (done : world.disk.makeFolder world.host.folder path = .ok made) :
    tryFolder path world = (.ok (.ok ()), world.moved made []) := by
  simp [tryFolder, done, World.moved]

theorem tryFolder_of_error (refused : world.disk.makeFolder world.host.folder path = .error fault) :
    tryFolder path world = (.ok (.error fault), world) := by
  simp [tryFolder, refused]

theorem alone_settleFor :
    (settleFor reported path fault).alone world =
      ((if world.disk.isFolder world.host.folder path then .ok () else .error fault : Except Fault Unit).mapError
        (.file reported), world) := by
  unfold settleFor
  rw [alone_bind, alone_atom, Step.bind_of_ok (Step.look_apply _ _), World.isFolder]
  cases world.disk.isFolder world.host.folder path <;> rfl

theorem makeFolders_of_ok (given : ¬path.isEmpty = true)
    (done : world.disk.makeFolder world.host.folder path = .ok made) :
    (makeFolders reported path).alone world = (.ok (), world.moved made []) := by
  unfold makeFolders
  rw [if_neg given, alone_bind, alone_atom, Step.bind_of_ok (tryFolder_of_ok done)]
  rfl

theorem makeFolders_of_error (given : ¬path.isEmpty = true) (other : fault ≠ .missing)
    (refused : world.disk.makeFolder world.host.folder path = .error fault) :
    (makeFolders reported path).alone world = (settleFor reported path fault).alone world := by
  unfold makeFolders
  rw [if_neg given, alone_bind, alone_atom, Step.bind_of_ok (tryFolder_of_error refused)]
  simp only [other, ne_eq, not_false_eq_true, if_true]

theorem makeFolders_of_rootless (given : ¬path.isEmpty = true) (above : path.parent? = none)
    (refused : world.disk.makeFolder world.host.folder path = .error .missing) :
    (makeFolders reported path).alone world = (.error (.file reported .missing), world) := by
  unfold makeFolders
  rw [if_neg given, alone_bind, alone_atom, Step.bind_of_ok (tryFolder_of_error refused)]
  simp [above]

variable {parent : Path}

theorem makeFolders_of_missing (given : ¬path.isEmpty = true) (above : path.parent? = some parent)
    (shorter : parent.bytes.length < path.bytes.length)
    (refused : world.disk.makeFolder world.host.folder path = .error .missing) :
    (makeFolders reported path).alone world = (do
      (makeFolders reported parent).alone
      match ← tryFolder path with
      | .ok () => return ()
      | .error again => (settleFor reported path again).alone : Step Unit) world := by
  conv => lhs; unfold makeFolders
  rw [if_neg given, alone_bind, alone_atom, Step.bind_of_ok (tryFolder_of_error refused)]
  simp only [above, shorter, ne_eq, not_true_eq_false, if_false, if_true, alone_bind, alone_atom]
  refine congrFun (congrArg _ (funext fun _ => congrArg _ (funext fun answer => ?_))) world
  cases answer <;> rfl

end Folders

theorem alone_makeFolders (reported path : Path) (world : World) :
    (makeFolders reported path).alone world =
      ((world.disk.makeFolders world.host.folder path).1.mapError (.file reported),
        world.moved (world.disk.makeFolders world.host.folder path).2 []) := by
  -- Making folders recurs on the path alone, the strand in a world: the two meet in the disk of that world.
  generalize there : world.disk = disk
  generalize working : world.host.folder = base
  fun_induction Disk.makeFolders disk base path generalizing world with
  | case1 path empty =>
    subst there working
    unfold makeFolders
    simp [empty]
  | case2 path given made done =>
    subst there working
    exact makeFolders_of_ok reported given done
  | case3 path given fault refused other =>
    subst there working
    rw [makeFolders_of_error reported given other refused, alone_settleFor, World.moved_self]
  | case4 path given fault refused again above =>
    subst there working
    obtain rfl : fault = .missing := by simpa using again
    simp [makeFolders_of_rootless reported given above refused]
  | case5 path given fault refused again parent above shorter failed changed done ih =>
    subst there working
    obtain rfl : fault = .missing := by simpa using again
    have ih := ih world rfl rfl
    rw [done] at ih
    rw [makeFolders_of_missing reported given above shorter refused, Step.bind_of_error ih]
    rfl
  | case6 path given fault refused again parent above shorter changed done made last ih =>
    subst there working
    obtain rfl : fault = .missing := by simpa using again
    have ih := ih world rfl rfl
    rw [done] at ih
    rw [makeFolders_of_missing reported given above shorter refused, Step.bind_of_ok ih]
    rw [Step.bind_of_ok (tryFolder_of_ok last), World.moved_moved]
    rfl
  | case7 path given fault refused again parent above shorter changed done failed last ih =>
    subst there working
    obtain rfl : fault = .missing := by simpa using again
    have ih := ih world rfl rfl
    rw [done] at ih
    rw [makeFolders_of_missing reported given above shorter refused, Step.bind_of_ok ih]
    rw [Step.bind_of_ok (tryFolder_of_error last)]
    exact alone_settleFor reported
  | case8 path given fault refused again parent above shorter =>
    subst there working
    obtain rfl : fault = .missing := by simpa using again
    unfold makeFolders
    rw [if_neg given, alone_bind, alone_atom, Step.bind_of_ok (tryFolder_of_error refused)]
    simp [above, shorter]

theorem alone_prepareFolder (path : Path) : (prepareFolder path).alone = AtomicFile.prepareFolder path := by
  funext world
  unfold prepareFolder AtomicFile.prepareFolder
  cases path.parent? with
  | none => rfl
  | some parent =>
      simp only [alone_makeFolders]
      obtain ⟨answer, disk⟩ := world.disk.makeFolders world.host.folder parent
      cases answer <;> simp [World.moved]

theorem alone_fill {world : World} {path temporary : Path} {folder : Location} {name : Bytes}
    (made : Temporary.Made world path temporary folder name) (bytes : ByteArray) (events : List Event) {old : File}
    (plain : old.executable = false) (left : Nat) : (fill temporary bytes left).alone
      (world.moved (world.disk.put (folder ++ [name]) (.file old)) events) =
    (.ok (), world.moved (world.disk.put (folder ++ [name]) (.file { bytes })) events) := by
  induction left generalizing old with
  | zero => exact AtomicFile.change_filled made bytes events plain
  | succ left ih =>
      rw [fill, alone_bind, alone_atom, Step.bind_of_ok (AtomicFile.change_filled made _ events plain)]
      exact ih rfl

/-- A file that was moved is not there any more, so that there is nothing to tidy up. -/
theorem alone_replace {world : World} {path temporary : Path} {folder : Location} {name : Bytes}
    (made : Temporary.Made world path temporary folder name) (bytes : ByteArray) (events : List Event) :
    (replace path temporary bytes).alone
      (world.moved (world.disk.put (folder ++ [name]) (.file Temporary.emptyFile)) events) =
    Step.thenTidy
      (do
        Step.change temporary fun disk base => disk.write base temporary { bytes }
        AtomicFile.moveTo temporary path)
      (Temporary.remove temporary)
      (world.moved (world.disk.put (folder ++ [name]) (.file Temporary.emptyFile)) events) := by
  unfold replace
  rw [alone_orTidy, alone_bind, alone_atom, Step.thenTidy_apply,
    Step.bind_of_ok (AtomicFile.change_filled made bytes events Temporary.emptyFile_executable),
    Step.bind_of_ok (alone_fill made bytes events Temporary.emptyFile_executable bytes.size)]
  rcases AtomicFile.moveTo_filled made bytes events with ⟨fault, refused⟩ | ⟨location, -, gone, moving⟩
  · rw [refused]
  · rw [moving, Temporary.remove_of_not_holds gone]

theorem alone_write (path : Path) (bytes : ByteArray) : (write path bytes).alone = AtomicFile.write path bytes := by
  funext world
  unfold write AtomicFile.write
  rw [alone_bind, alone_prepareFolder, Step.bind_apply, Step.bind_apply]
  obtain ⟨answer, ready⟩ := AtomicFile.prepareFolder path world
  cases answer with
  | error failure => rfl
  | ok done =>
      simp only [alone_bind, alone_atom, makeTemporary]
      rw [Step.bind_of_ok (Step.look_apply _ _), Step.bind_apply, Step.bind_of_ok (Step.look_apply _ _)]
      rcases Temporary.make_cases path (AtomicFile.folderOf ready path) path AtomicFile.nameStart
        AtomicFile.nameEnding (by decide) (by decide) (by decide) ready with
        ⟨fault, refused⟩ | ⟨temporary, folder, name, made, -, -, named⟩
      · rw [refused, Step.bind_of_error refused]
      · rw [named, Step.bind_of_ok named]
        exact alone_replace made bytes _

theorem alone_copy (source target : Path) : (copy source target).alone = AtomicFile.copy source target := by
  unfold copy AtomicFile.copy
  rw [alone_bind, alone_atom]
  simp only [alone_write]

variable (cache : Cache) (uri : Text)

theorem alone_fetch : (fetch cache uri).alone = cache.fetchRecorded uri := by
  funext world
  simp only [fetch, Cache.fetchRecorded, Cache.fetch, alone_bind, alone_atom, alone_ended, Step.bind_apply,
    Step.record_apply, Step.check_apply]
  rcases cache.resourcePath uri with failure | resource
  · rfl
  · simp only [Step.look_apply]
    cases (world.moved world.disk [.fetched uri]).isFile resource with
    | false => rfl
    | true =>
        simp only [if_true, alone_bind, alone_ended, alone_copy, Step.bind_apply, Step.check_apply]
        rcases cache.copyPath uri with failure | path
        · rfl
        · rfl

theorem alone_kept : (kept cache uri).alone = Step.check fun world => cache.kept world uri := by
  funext world
  simp only [kept, Cache.kept, alone_bind, alone_atom, alone_ended, Step.bind_apply, Step.check_apply]
  rcases cache.copyPath uri with failure | path
  · rfl
  · simp only [Step.look_apply, Except.map]
    cases world.isFile path <;> rfl

theorem alone_resourceDigest :
    (resourceDigest cache uri).alone = Step.check fun world => cache.resourceDigest world uri := by
  funext world
  simp only [resourceDigest, Cache.resourceDigest, alone_bind, alone_atom, alone_ended, Step.bind_apply,
    Step.check_apply]
  rcases cache.resourcePath uri with failure | path
  · rfl
  · simp only [Step.look_apply]
    cases world.isFile path with
    | false => rfl
    | true =>
        simp only [if_true, alone_bind, alone_atom, Step.bind_apply, Step.check_apply]
        cases Cache.digestAt world path <;> rfl

theorem alone_isOutdated (path : Path) :
    (isOutdated cache uri path).alone = Step.check fun world => cache.isOutdated world uri path := by
  funext world
  simp only [isOutdated, Cache.isOutdated, alone_bind, alone_resourceDigest, alone_atom, Step.bind_apply,
    Step.check_apply]
  rcases cache.resourceDigest world uri with failure | resource
  · rfl
  · dsimp only
    cases Cache.digestAt world path <;> rfl

theorem alone_keptOrFetched (world : World) : (keptOrFetched cache uri).alone world =
    match cache.kept world uri with
    | .error failure => (.error failure, world)
    | .ok (some path) => (.ok (some path), world)
    | .ok none => cache.fetchRecorded uri world := by
  simp only [keptOrFetched, alone_bind, alone_kept, Step.bind_apply, Step.check_apply]
  rcases cache.kept world uri with failure | copy
  · rfl
  · cases copy with
    | none => exact congrFun (alone_fetch cache uri) world
    | some path => rfl

theorem alone_current (path : Path) (world : World) : (current cache uri path).alone world =
    match cache.isOutdated world uri path with
    | .error failure => (.error failure, world)
    | .ok true => cache.fetchRecorded uri world
    | .ok false => (.ok (some path), world) := by
  simp only [current, alone_bind, alone_isOutdated, Step.bind_apply, Step.check_apply]
  rcases cache.isOutdated world uri path with failure | outdated
  · rfl
  · cases outdated with
    | false => rfl
    | true => exact congrFun (alone_fetch cache uri) world

theorem alone_acquire : (acquire cache uri).alone = cache.acquire (.remote uri) := by
  funext world
  simp only [acquire, Cache.acquire, Cache.currentCopy, alone_bind, Step.bind_apply, alone_keptOrFetched,
    Step.check_apply]
  rcases cache.kept world uri with failure | copy
  · rfl
  cases copy with
  | some path =>
      simp only [alone_current, Step.bind_apply, Step.check_apply, Step.pure_apply]
      rcases cache.isOutdated world uri path with failure | outdated
      · rfl
      · cases outdated <;> rfl
  | none =>
      simp only [Step.bind_apply]
      obtain ⟨answer, after⟩ := cache.fetchRecorded uri world
      rcases answer with failure | copy
      · rfl
      cases copy with
      | none => rfl
      | some path =>
          simp only [alone_current, Step.bind_apply, Step.check_apply]
          rcases cache.isOutdated after uri path with failure | outdated
          · rfl
          · cases outdated <;> rfl

end PipDriver.Strand
