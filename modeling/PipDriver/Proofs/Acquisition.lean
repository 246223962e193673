import PipDriver.Cache.Acquire
import PipDriver.Proofs.Storage

/-!
How a requirements file is obtained through a cache: what a fetch leaves behind, when a second one follows,
and what the path that is given then holds.
-/

namespace PipDriver

open Disk AtomicFile

def World.contents? (world : World) (path : Path) : Option ByteArray :=
  world.disk.contents? world.host.folder path

theorem World.isFile_eq_isSome_contents? (world : World) (path : Path) :
    world.isFile path = (world.contents? path).isSome :=
  Disk.isFile_eq_isSome_contents? _ _ _

theorem World.read_of_contents? {world : World} {path : Path} {bytes : ByteArray}
    (given : world.contents? path = some bytes) : world.read path = .ok bytes :=
  Disk.read_of_contents? given

namespace Cache

section

variable {cache : Cache} {uri : Text} {relative : Path} {world : World} {bytes old : ByteArray}

theorem digestAt_of_contents? {path : Path} (given : world.contents? path = some bytes) :
    digestAt world path = .ok (Digest.ofBytes bytes) := by
  simp [digestAt, World.read_of_contents? given]

variable (named : Cache.relative uri = .ok relative)
include named

theorem resourcePath_eq : cache.resourcePath uri = .ok (cache.root.join relative) := by
  simp [resourcePath, below, named]

theorem copyPath_eq : cache.copyPath uri = .ok (cache.folder.join relative) := by
  simp [copyPath, below, named]

theorem fetchRecorded_missing (missing : world.contents? (cache.root.join relative) = none) :
    cache.fetchRecorded uri world = (.ok none, world.moved world.disk [.fetched uri]) := by
  have gone : (world.moved world.disk [.fetched uri]).isFile (cache.root.join relative) = false := by
    rw [World.isFile_eq_isSome_contents?]
    exact Option.isSome_eq_false_iff.mpr (Option.isNone_iff_eq_none.mpr missing)
  simp [fetchRecorded, fetch, Step.bind_apply, resourcePath_eq named, gone]

theorem fetchRecorded_found (given : world.contents? (cache.root.join relative) = some bytes) :
    cache.fetchRecorded uri world =
      match AtomicFile.write (cache.folder.join relative) bytes (world.moved world.disk [.fetched uri]) with
      | (.ok _, after) => (.ok (some (cache.folder.join relative)), after)
      | (.error failure, after) => (.error failure, after) := by
  have there : (world.moved world.disk [.fetched uri]).isFile (cache.root.join relative) = true := by
    rw [World.isFile_eq_isSome_contents?]
    exact Option.isSome_of_eq_some given
  have read : (world.moved world.disk [.fetched uri]).read (cache.root.join relative) = .ok bytes :=
    World.read_of_contents? given
  simp [fetchRecorded, fetch, Step.bind_apply, Step.map_apply, resourcePath_eq named, copyPath_eq named,
    there, AtomicFile.copy, Step.read, read]
  obtain ⟨answer, after⟩ := AtomicFile.write (cache.folder.join relative) bytes
    (world.moved world.disk [.fetched uri])
  cases answer <;> rfl

theorem isOutdated_of_missing {copy : Path} (missing : world.contents? (cache.root.join relative) = none)
    (cached : world.contents? copy = some old) : cache.isOutdated world uri copy = .ok true := by
  have gone : world.isFile (cache.root.join relative) = false := by
    rw [World.isFile_eq_isSome_contents?, missing]
    rfl
  simp [isOutdated, resourceDigest, resourcePath_eq named, gone, digestAt_of_contents? cached]

theorem isOutdated_of_contents? {copy : Path} (given : world.contents? (cache.root.join relative) = some bytes)
    (cached : world.contents? copy = some old) :
    cache.isOutdated world uri copy = .ok (Digest.ofBytes bytes ≠ Digest.ofBytes old) := by
  have there : world.isFile (cache.root.join relative) = true := by
    rw [World.isFile_eq_isSome_contents?, given]
    rfl
  simp [isOutdated, resourceDigest, resourcePath_eq named, there, digestAt_of_contents? given,
    digestAt_of_contents? cached, Except.map]

theorem isOutdated_of_lost {copy : Path} {fault : Fault}
    (lost : world.disk.entryAt world.host.folder copy = .error fault) :
    cache.isOutdated world uri copy = .error (.file copy fault) := by
  have unread : world.read copy = .error fault := by
    simp [World.read, Disk.read, lost]
  have undigested : digestAt world copy = .error (.file copy fault) := by
    simp [digestAt, unread]
  cases upstream : world.contents? (cache.root.join relative) with
  | none =>
      have gone : world.isFile (cache.root.join relative) = false := by
        rw [World.isFile_eq_isSome_contents?, upstream]
        rfl
      simp [isOutdated, resourceDigest, resourcePath_eq named, gone, undigested]
  | some bytes =>
      have there : world.isFile (cache.root.join relative) = true := by
        rw [World.isFile_eq_isSome_contents?, upstream]
        rfl
      simp [isOutdated, resourceDigest, resourcePath_eq named, there, digestAt_of_contents? upstream, undigested,
        Except.map]

theorem currentCopy_of_kept (cached : world.contents? (cache.folder.join relative) = some old) :
    cache.currentCopy uri world =
      match cache.isOutdated world uri (cache.folder.join relative) with
      | .error failure => (.error failure, world)
      | .ok true => cache.fetchRecorded uri world
      | .ok false => (.ok (some (cache.folder.join relative)), world) := by
  have kept : cache.kept world uri = .ok (some (cache.folder.join relative)) := by
    simp [kept, copyPath_eq named, World.isFile_eq_isSome_contents?, cached, Except.map]
  simp only [currentCopy, Step.bind_apply, Step.check_apply, kept, Step.pure_apply]
  rcases cache.isOutdated world uri (cache.folder.join relative) with failure | outdated
  · rfl
  · cases outdated <;> rfl

theorem currentCopy_of_not_kept (uncached : world.contents? (cache.folder.join relative) = none) :
    cache.currentCopy uri world =
      match cache.fetchRecorded uri world with
      | (.error failure, after) => (.error failure, after)
      | (.ok none, after) => (.ok none, after)
      | (.ok (some path), after) =>
        match cache.isOutdated after uri path with
        | .error failure => (.error failure, after)
        | .ok true => cache.fetchRecorded uri after
        | .ok false => (.ok (some path), after) := by
  have kept : cache.kept world uri = .ok none := by
    simp [kept, copyPath_eq named, World.isFile_eq_isSome_contents?, uncached, Except.map]
  simp only [currentCopy, Step.bind_apply, Step.check_apply, kept]
  obtain ⟨answer, after⟩ := cache.fetchRecorded uri world
  rcases answer with failure | copy
  · rfl
  · cases copy with
    | none => rfl
    | some path =>
        simp only [Step.bind_apply, Step.check_apply]
        rcases cache.isOutdated after uri path with failure | outdated
        · rfl
        · cases outdated <;> rfl

end

def fetching (uri : Text) (temporaries : List Path) : List Event := .fetched uri :: temporaries.map .made

inductive Course (uri : Text) (resource copy : Path) (world : World) :
    Except Failure (Option Path) × World → Prop
  | current {bytes old : ByteArray} (upstream : world.contents? resource = some bytes)
      (cached : world.contents? copy = some old) (same : Digest.ofBytes bytes = Digest.ofBytes old) :
      Course uri resource copy world (.ok (some copy), world)
  | missing (upstream : world.contents? resource = none) :
      Course uri resource copy world (.ok none, world.moved world.disk [.fetched uri])
  | refused {place : Path} {fault : Fault} {temporaries : List Path}
      (gone : Gone (world.moved (prepared world copy) (fetching uri temporaries)) temporaries) :
      Course uri resource copy world
        (.error (.file place fault), world.moved (prepared world copy) (fetching uri temporaries))
  | renewed {bytes : ByteArray} {temporaries : List Path} {location : Location} {after : World}
      (upstream : world.contents? resource = some bytes)
      (changed : ∀ old, world.contents? copy = some old → Digest.ofBytes bytes ≠ Digest.ofBytes old)
      (allowed : (prepared world copy).moveTarget world.host.folder copy = .ok location)
      (stands : after = world.moved (stored world copy location bytes) (fetching uri temporaries))
      (gone : Gone after temporaries)
      (copied : after.contents? copy = some bytes) (beside : after.contents? resource = some bytes) :
      Course uri resource copy world (.ok (some copy), after)
  | lost {bytes : ByteArray} {temporaries : List Path} {location : Location} {after : World}
      (allowed : (prepared world copy).moveTarget world.host.folder copy = .ok location)
      (stands : after = world.moved (stored world copy location bytes) (fetching uri temporaries))
      (gone : Gone after temporaries) :
      Course uri resource copy world (.error (.file copy .notFolder), after)
  | cutOff {bytes : ByteArray} {temporaries : List Path} {location : Location} {after : World}
      (upstream : world.contents? resource = some bytes) (uncached : world.contents? copy = none)
      (allowed : (prepared world copy).moveTarget world.host.folder copy = .ok location)
      (stands : after = world.moved (stored world copy location bytes) (fetching uri temporaries))
      (gone : Gone after temporaries) (beside : after.contents? resource = none) :
      Course uri resource copy world (.ok none, after.moved after.disk [.fetched uri])

section

variable {world after : World} {copy resource : Path} {location : Location} {bytes : ByteArray}
  {events : List Event}

theorem spot_of_stored (bytes : ByteArray)
    (allowed : (prepared world copy).moveTarget world.host.folder copy = .ok location) :
    ∃ folder name, IsSpot (prepared world copy) world.host.folder copy folder name ∧
      KeptOff (prepared world copy) (stored world copy location bytes) (folder ++ [name]) ∧
      (stored world copy location bytes).get? (folder ++ [name]) = some (.file { bytes }) := by
  obtain ⟨folder, name, rfl, spot, -, -⟩ := spot_of_moveTarget allowed
  exact ⟨folder, name, spot, keptOff_put _ _ _, get?_put_self _ _ _ (by simp)⟩

/-- Once a copy is written, both paths lead to its bytes as far as they lead to a file. -/
theorem stored_contents? (upstream : world.contents? resource = some bytes)
    (allowed : (prepared world copy).moveTarget world.host.folder copy = .ok location)
    (stands : after = world.moved (stored world copy location bytes) events) :
    (after.contents? copy = some bytes ∨ after.disk.entryAt after.host.folder copy = .error .notFolder) ∧
    (after.contents? resource = some bytes ∨ after.contents? resource = none) := by
  obtain ⟨folder, name, spot, kept, there⟩ := spot_of_stored bytes allowed
  have given := contents?_grow (prepared_built world copy).kept upstream
  subst stands
  refine ⟨spot.contents?_with_file kept there, ?_⟩
  rcases contents?_with_file kept there given with steady | taken | lost
  · exact Or.inl steady
  · exact Or.inl taken
  · exact Or.inr (by simp [World.contents?, contents?, lost])

theorem stored_over_file {old : ByteArray} (cached : world.contents? copy = some old)
    (upstream : world.contents? resource = some bytes)
    (allowed : (prepared world copy).moveTarget world.host.folder copy = .ok location)
    (stands : after = world.moved (stored world copy location bytes) events) :
    after.contents? copy = some bytes ∧ after.contents? resource = some bytes := by
  obtain ⟨folder, name, spot, kept, there⟩ := spot_of_stored bytes allowed
  have built := prepared_built world copy
  have given := contents?_grow built.kept upstream
  have held := contents?_grow built.kept cached
  subst stands
  refine ⟨spot.contents?_replaced kept there held, ?_⟩
  rcases spot.contents?_beside kept there held given with steady | taken
  · exact steady
  · exact taken

end

theorem fetchRecorded_cases {cache : Cache} {uri : Text} {relative : Path}
    (named : Cache.relative uri = .ok relative) {world : World} {bytes : ByteArray}
    (given : world.contents? (cache.root.join relative) = some bytes) : ∃ temporaries : List Path,
    (∃ place fault,
      Gone (world.moved (prepared world (cache.folder.join relative))
        (fetching uri temporaries)) temporaries ∧
      cache.fetchRecorded uri world = (.error (.file place fault),
        world.moved (prepared world (cache.folder.join relative)) (fetching uri temporaries))) ∨
    ∃ location after,
      (prepared world (cache.folder.join relative)).moveTarget world.host.folder
        (cache.folder.join relative) = .ok location ∧
      after = world.moved (stored world (cache.folder.join relative) location bytes)
        (fetching uri temporaries) ∧
      Gone after temporaries ∧
      cache.fetchRecorded uri world = (.ok (some (cache.folder.join relative)), after) := by
  rw [fetchRecorded_found named given]
  obtain ⟨temporaries, gone, ended⟩ := write_cases (cache.folder.join relative) bytes
    (world.moved world.disk [.fetched uri])
  have joined : ∀ disk, (world.moved world.disk [.fetched uri]).moved disk (temporaries.map .made) =
      world.moved disk (fetching uri temporaries) := by
    simp [fetching]
  refine ⟨temporaries, ?_⟩
  rcases ended with ⟨place, fault, ended⟩ | ⟨location, allowed, ended⟩
  · rw [ended, joined] at gone
    rw [ended, joined]
    exact Or.inl ⟨place, fault, gone, rfl⟩
  · rw [ended, joined] at gone
    rw [ended, joined]
    exact Or.inr ⟨location, _, allowed, rfl, gone, rfl⟩

theorem currentCopy_course (cache : Cache) {uri : Text} {relative : Path}
    (named : Cache.relative uri = .ok relative) (world : World) :
    Course uri (cache.root.join relative) (cache.folder.join relative) world (cache.currentCopy uri world) := by
  cases cached : world.contents? (cache.folder.join relative) with
  | some old =>
      rw [currentCopy_of_kept named cached]
      cases upstream : world.contents? (cache.root.join relative) with
      | none =>
          rw [isOutdated_of_missing named upstream cached]
          simp only [fetchRecorded_missing named upstream]
          exact .missing upstream
      | some bytes =>
          rw [isOutdated_of_contents? named upstream cached]
          by_cases same : Digest.ofBytes bytes = Digest.ofBytes old
          · simp only [same, ne_eq, not_true_eq_false, decide_false]
            exact .current upstream cached same
          · simp only [same, ne_eq, not_false_eq_true, decide_true]
            obtain ⟨temporaries, ⟨place, fault, gone, ended⟩ | ⟨location, after, allowed, stands, gone, ended⟩⟩ :=
              fetchRecorded_cases named upstream
            · rw [ended]
              exact .refused gone
            · rw [ended]
              obtain ⟨copied, beside⟩ := stored_over_file cached upstream allowed stands
              refine .renewed upstream ?_ allowed stands gone copied beside
              intro other held
              rwa [← Option.some.inj (cached.symm.trans held)]
  | none =>
      rw [currentCopy_of_not_kept named cached]
      cases upstream : world.contents? (cache.root.join relative) with
      | none =>
          simp only [fetchRecorded_missing named upstream]
          exact .missing upstream
      | some bytes =>
          obtain ⟨temporaries, ⟨place, fault, gone, ended⟩ | ⟨location, after, allowed, stands, gone, ended⟩⟩ :=
            fetchRecorded_cases named upstream
          · simp only [ended]
            exact .refused gone
          · -- What was just fetched is compared again, and may be fetched again.
            obtain ⟨copied | lost, found⟩ := stored_contents? upstream allowed stands
            · rcases found with beside | beside
              · simp only [ended, isOutdated_of_contents? named beside copied, ne_eq, not_true_eq_false,
                  decide_false]
                exact .renewed upstream (by simp [cached]) allowed stands gone copied beside
              · simp only [ended, isOutdated_of_missing named beside copied, fetchRecorded_missing named beside]
                exact .cutOff upstream cached allowed stands gone beside
            · simp only [ended, isOutdated_of_lost named lost]
              exact .lost allowed stands gone

theorem acquire_remote (cache : Cache) (uri : Text) :
    cache.acquire (.remote uri) = cache.currentCopy uri := rfl

theorem accounted_fetching (uri : Text) (temporaries : List Path) :
    Accounted (fetching uri temporaries) temporaries := by
  intro event member
  rcases List.mem_cons.mp member with same | made
  · exact Or.inl ⟨uri, same⟩
  · obtain ⟨temporary, listed, same⟩ := List.mem_map.mp made
    exact Or.inr ⟨temporary, listed, same.symm⟩

theorem accounted_fetching_append (uri : Text) (temporaries : List Path) :
    Accounted (fetching uri temporaries ++ [.fetched uri]) temporaries := by
  intro event member
  rcases List.mem_append.mp member with before | last
  · exact accounted_fetching uri temporaries event before
  · exact Or.inl ⟨uri, List.mem_singleton.mp last⟩

theorem worked_fetched (world : World) (uri : Text) (target : Option Location) :
    Worked world (world.moved world.disk [.fetched uri]) target [.fetched uri] where
  stands := rfl
  asked := by simp
  gone := by simp
  kept := fun _ _ found => Or.inl found
  came := fun _ _ found => Or.inl found

theorem Course.worked {uri : Text} {resource copy : Path} {world after : World}
    {answer : Except Failure (Option Path)} (course : Course uri resource copy world (answer, after)) :
    ∃ events, Worked world after (target? world copy) events := by
  cases course with
  | current _ _ _ => exact ⟨_, worked_nothing _ _⟩
  | missing _ => exact ⟨_, worked_fetched _ _ _⟩
  | refused gone => exact ⟨_, worked_prepared _ (accounted_fetching _ _) gone⟩
  | renewed _ _ allowed stands gone _ _ => exact ⟨_, worked_stored (accounted_fetching _ _) allowed stands gone⟩
  | lost allowed stands gone => exact ⟨_, worked_stored (accounted_fetching _ _) allowed stands gone⟩
  | @cutOff bytes temporaries location between _ _ allowed stands gone _ =>
      have joined : between.moved between.disk [.fetched uri] =
          world.moved (stored world copy location bytes) (fetching uri temporaries ++ [.fetched uri]) := by
        rw [stands, World.moved_disk, World.moved_moved]
      exact ⟨_, worked_stored (accounted_fetching_append uri temporaries) allowed joined gone⟩

theorem currentCopy_bad {cache : Cache} {uri : Text} {cause : UriFault} (bad : relative uri = .error cause)
    (world : World) : cache.currentCopy uri world = (.error (.badUri uri cause), world) := by
  simp [currentCopy, Step.bind_apply, kept, copyPath, below, bad, Except.map]

def target? (cache : Cache) (world : World) : Source → Option Location
  | .onHost _ => none
  | .remote uri => (cache.copyPath uri).toOption.bind (AtomicFile.target? world)

theorem target?_remote {cache : Cache} {uri : Text} {relative : Path}
    (named : Cache.relative uri = .ok relative) (world : World) :
    cache.target? world (.remote uri) = AtomicFile.target? world (cache.folder.join relative) := by
  simp [target?, copyPath_eq named, Except.toOption]

theorem acquire_worked (cache : Cache) (source : Source) (world : World) :
    ∃ events, Worked world (cache.acquire source world).2 (cache.target? world source) events := by
  cases source with
  | onHost path => exact ⟨[], worked_nothing _ _⟩
  | remote uri =>
      rw [acquire_remote]
      cases named : Cache.relative uri with
      | error cause =>
          rw [currentCopy_bad named]
          exact ⟨[], worked_nothing _ _⟩
      | ok relative =>
          rw [target?_remote named]
          exact (currentCopy_course cache named world).worked

theorem fetch_worked (cache : Cache) (uri : Text) (world : World) :
    ∃ events, Worked world (cache.fetch uri world).2 (cache.target? world (.remote uri)) events := by
  cases named : Cache.relative uri with
  | error cause =>
      have refused : cache.fetch uri world = (.error (.badUri uri cause), world) := by
        simp [fetch, Step.bind_apply, resourcePath, below, named]
      rw [refused]
      exact ⟨[], worked_nothing _ _⟩
  | ok relative =>
      rw [target?_remote named]
      cases there : world.isFile (cache.root.join relative) with
      | false =>
          have missing : cache.fetch uri world = (.ok none, world) := by
            simp [fetch, Step.bind_apply, resourcePath_eq named, there]
          rw [missing]
          exact ⟨[], worked_nothing _ _⟩
      | true =>
          have copied : (cache.fetch uri world).2 =
              (AtomicFile.copy (cache.root.join relative) (cache.folder.join relative) world).2 := by
            simp only [fetch, Step.bind_apply, Step.check_apply, Step.look_apply, resourcePath_eq named, there,
              if_true, copyPath_eq named]
            rcases AtomicFile.copy (cache.root.join relative) (cache.folder.join relative) world with
              ⟨answer, after⟩
            cases answer <;> rfl
          rw [copied]
          exact copy_worked _ _ world

theorem acquire_failure {cache : Cache} {source : Source} {world : World} {failure : Failure}
    (failed : (cache.acquire source world).1 = .error failure) : failure.isStorage = true := by
  cases source with
  | onHost path => cases failed
  | remote uri =>
      rw [acquire_remote] at failed
      cases named : Cache.relative uri with
      | error cause =>
          rw [currentCopy_bad named, Except.error.injEq] at failed
          exact failed ▸ rfl
      | ok relative =>
          have course := currentCopy_course cache named world
          have same : cache.currentCopy uri world = (.error failure, (cache.currentCopy uri world).2) :=
            Prod.ext failed rfl
          rw [same] at course
          generalize (cache.currentCopy uri world).2 = after at course
          cases course with
          | refused _ => rfl
          | lost _ _ _ => rfl

theorem fetches_moved (world : World) (disk : Disk) (uri : Text) (temporaries : List Path) :
    (world.moved disk (fetching uri temporaries)).fetches = world.fetches ++ [uri] := by
  simp [World.fetches, fetching, List.filterMap_map, Function.comp_def, Event.fetch?]

/-- The copy would be put in the place of a link on the way to the resource, and a file there cuts the resource
off. -/
def CutsOff (world : World) (copy resource : Path) : Prop :=
  ∃ location target,
    (prepared world copy).moveTarget world.host.folder copy = .ok location ∧
    (prepared world copy).get? location = some (.link target) ∧
    ∀ file, ((prepared world copy).put location (.file file)).contents? world.host.folder resource =
      none

section

variable {world after : World} {copy resource : Path} {location : Location} {bytes old : ByteArray}
  {events : List Event}

theorem CutsOff.stored_contents? (cuts : CutsOff world copy resource)
    (allowed : (prepared world copy).moveTarget world.host.folder copy = .ok location)
    (stands : after = world.moved (stored world copy location bytes) events) :
    after.contents? resource = none := by
  obtain ⟨there, target, same, -, cut⟩ := cuts
  rw [allowed, Except.ok.injEq] at same
  subst same stands
  exact cut { bytes }

theorem not_cutsOff_of_cached (upstream : world.contents? resource = some bytes)
    (cached : world.contents? copy = some old) : ¬ CutsOff world copy resource := by
  intro cuts
  obtain ⟨location, target, allowed, -, -⟩ := id cuts
  have beside := (stored_over_file cached upstream allowed
    (rfl : world.moved (stored world copy location bytes) [] = _)).2
  rw [cuts.stored_contents? allowed rfl] at beside
  cases beside

/-- Only a link in the place of the copy can have led to what is lost when the copy is written. -/
theorem cutsOff_of_lost (upstream : world.contents? resource = some bytes)
    (allowed : (prepared world copy).moveTarget world.host.folder copy = .ok location)
    (stands : after = world.moved (stored world copy location bytes) events)
    (beside : after.contents? resource = none) : CutsOff world copy resource := by
  have given := contents?_grow (prepared_built world copy).kept upstream
  obtain ⟨folder, name, rfl, ⟨place, found, stops⟩, -, -⟩ := spot_of_moveTarget allowed
  have there : (stored world copy (folder ++ [name]) bytes).get? (folder ++ [name]) =
      some (.file { bytes }) := get?_put_self _ _ _ (by simp)
  have kept : KeptOff (prepared world copy) (stored world copy (folder ++ [name]) bytes)
      (folder ++ [name]) := keptOff_put _ _ _
  subst stands
  have steady : ∀ {disk : Disk}, KeptOff disk (stored world copy (folder ++ [name]) bytes) (folder ++ [name]) →
      ∀ leaf, leaf.isLeaf = true → disk.get? (folder ++ [name]) = some leaf →
        disk.contents? world.host.folder resource = none := by
    intro disk kept leaf isLeaf was
    cases held : disk.contents? world.host.folder resource with
    | none => rfl
    | some held =>
        rcases contents?_after_leaf kept there isLeaf was ‹_› with same | same <;>
          simp [World.contents?, same] at beside
  cases place with
  | vacant here last asked =>
      obtain ⟨rfl, rfl⟩ := stops
      have absent := (arrives_of_find found).holds.1
      have grown : (stored world copy (here ++ [last]) bytes).contents? world.host.folder resource =
          some bytes := by
        refine contents?_grow (fun location entry held => kept location entry ?_ held) given
        rintro rfl
        simp [absent] at held
      simp [World.contents?, grown] at beside
  | occupied spot entry =>
      obtain ⟨rfl, proper⟩ := stops
      rcases (arrives_of_find found).holds with impossible | was
      · exact (proper impossible).elim
      cases entry with
      | file file => simp [steady kept _ rfl was] at given
      | device device => simp [steady kept _ rfl was] at given
      | folder => exact (proper rfl).elim
      | link target =>
          exact ⟨folder ++ [name], target, allowed, was, fun file =>
            steady (keptOff_between_puts _ _ _ _) (.file file) rfl (get?_put_self _ _ _ (by simp))⟩

end

/-- Copies are told from resources by their digests: no two contents that meet here share one. -/
def ToldApart (world : World) (copy resource : Path) : Prop :=
  ∀ old bytes, world.contents? copy = some old → world.contents? resource = some bytes →
    Digest.ofBytes bytes = Digest.ofBytes old → bytes = old

theorem acquire_again {cache : Cache} {uri : Text} {relative : Path} {world : World} {bytes : ByteArray}
    (named : Cache.relative uri = .ok relative)
    (upstream : world.contents? (cache.root.join relative) = some bytes)
    (cached : world.contents? (cache.folder.join relative) = some bytes) :
    cache.acquire (.remote uri) world = (.ok (some (cache.folder.join relative)), world) := by
  rw [acquire_remote, currentCopy_of_kept named cached, isOutdated_of_contents? named upstream cached]
  simp

/-- Acquiring what a URI names, where it ends without a failure: there is an answer just for a regular file
that the copy does not cut off, the copy then holds its bytes, and is fetched once unless it did before. -/
theorem acquire_remote_spec {cache : Cache} {uri : Text} {relative : Path} {world : World}
    {answer : Option Path} (named : Cache.relative uri = .ok relative)
    (apart : ToldApart world (cache.folder.join relative) (cache.root.join relative))
    (ended : (cache.acquire (.remote uri) world).1 = .ok answer) :
    let copy := cache.folder.join relative
    let resource := cache.root.join relative
    let after := (cache.acquire (.remote uri) world).2
    (world.contents? resource = none → answer = none ∧ after.fetches = world.fetches ++ [uri]) ∧
    ∀ bytes, world.contents? resource = some bytes →
      (¬ CutsOff world copy resource →
        answer = some copy ∧ after.contents? copy = some bytes ∧ after.contents? resource = some bytes ∧
        (world.contents? copy = some bytes → after.fetches = world.fetches) ∧
        (world.contents? copy ≠ some bytes → after.fetches = world.fetches ++ [uri]) ∧
        cache.acquire (.remote uri) after = (.ok (some copy), after)) ∧
      (CutsOff world copy resource → answer = none ∧ after.fetches = world.fetches ++ [uri, uri]) := by
  intro copy resource after
  have course := currentCopy_course cache named world
  have same : cache.currentCopy uri world = (.ok answer, after) := Prod.ext ended rfl
  rw [same] at course
  clear_value after
  cases course with
  | @current bytes old upstream cached digests =>
      obtain rfl := apart old bytes cached upstream digests
      refine ⟨by simp [resource, upstream], ?_⟩
      intro other given
      obtain rfl := Option.some.inj (upstream.symm.trans given)
      refine ⟨fun _ => ⟨rfl, cached, upstream, fun _ => rfl, fun stale => (stale cached).elim,
        acquire_again named upstream cached⟩, ?_⟩
      intro cuts
      exact (not_cutsOff_of_cached upstream cached cuts).elim
  | missing upstream =>
      refine ⟨fun _ => ⟨rfl, fetches_moved world world.disk uri []⟩, ?_⟩
      intro bytes given
      simp [resource, given] at upstream
  | @renewed bytes temporaries location _ upstream changed allowed stands gone copied beside =>
      have once : after.fetches = world.fetches ++ [uri] := by
        rw [stands, fetches_moved]
      refine ⟨by simp [resource, upstream], ?_⟩
      intro other given
      obtain rfl := Option.some.inj (upstream.symm.trans given)
      refine ⟨fun _ => ⟨rfl, copied, beside, fun cached => (changed _ cached rfl).elim, fun _ => once,
        acquire_again named beside copied⟩, ?_⟩
      intro cuts
      rw [cuts.stored_contents? allowed stands] at beside
      cases beside
  | @cutOff bytes temporaries location between upstream uncached allowed stands gone beside =>
      -- The first fetch has cut the resource off, so the second one finds nothing to give.
      have twice : (between.moved between.disk [.fetched uri]).fetches = world.fetches ++ [uri, uri] := by
        rw [show [Event.fetched uri] = fetching uri [] from rfl, fetches_moved, stands, fetches_moved]
        simp
      have cuts := cutsOff_of_lost upstream allowed stands beside
      refine ⟨by simp [resource, upstream], ?_⟩
      intro other given
      exact ⟨fun intact => (intact cuts).elim, fun _ => ⟨rfl, twice⟩⟩

attribute [local instance] bytesEquality

def staleWorld : World where
  disk := { entries := [(["srv"], .folder), (["srv", "a"], .file { bytes := ⟨#[120]⟩ }),
    (["kept"], .folder), (["kept", "a"], .file { bytes := ⟨#[121]⟩ })] }
  host := { folder := [] }

def staleCache : Cache where
  root := "srv"
  folder := "kept"

theorem acquire_remote_spec_stale :
    let run := staleCache.acquire (.remote "salt://a") staleWorld
    run.1 = .ok (some ⟨"kept/a"⟩) ∧ run.2.contents? "kept/a" = some ⟨#[120]⟩ ∧
      run.2.fetches = [("salt://a" : Text)] := by
  have named : Cache.relative "salt://a" = .ok "a" := ok_of_toOption (by decide +kernel)
  have upstream : staleWorld.contents? (staleCache.root.join "a") = some ⟨#[120]⟩ := by decide +kernel
  have cached : staleWorld.contents? (staleCache.folder.join "a") = some ⟨#[121]⟩ := by decide +kernel
  have apart : ToldApart staleWorld (staleCache.folder.join "a") (staleCache.root.join "a") := by
    intro old bytes held given same
    rw [cached, Option.some.injEq] at held
    rw [upstream, Option.some.injEq] at given
    subst held given
    exact absurd same (by decide +kernel)
  have ended : (staleCache.acquire (.remote "salt://a") staleWorld).1 = .ok (some ⟨"kept/a"⟩) :=
    ok_of_toOption (by decide +kernel)
  have spec := ((acquire_remote_spec named apart ended).2 _ upstream).1 (not_cutsOff_of_cached upstream cached)
  exact ⟨ended, spec.2.1, spec.2.2.2.2.1 (by rw [cached]; decide +kernel)⟩

def linkedWorld : World where
  disk := { entries := [(["d"], .folder), (["d", "a"], .file { bytes := ⟨#[120]⟩ }),
    (["c"], .folder), (["c", "a"], .link "../d")] }
  host := { folder := [] }

def linkedCache : Cache where
  root := "c/a"
  folder := "c"

/-- A regular file upstream that is not given, after two fetches. -/
theorem acquire_cut_off :
    Cache.relative "salt://a" = .ok "a" ∧
    linkedWorld.contents? (linkedCache.root.join "a") = some ⟨#[120]⟩ ∧
    linkedWorld.contents? (linkedCache.folder.join "a") = none ∧
    (linkedCache.acquire (.remote "salt://a") linkedWorld).1 = .ok none ∧
    (linkedCache.acquire (.remote "salt://a") linkedWorld).2.fetches = [("salt://a" : Text), "salt://a"] :=
  ⟨ok_of_toOption (by decide +kernel), by decide +kernel, by decide +kernel,
    ok_of_toOption (by decide +kernel), by decide +kernel⟩

end Cache

end PipDriver
