import PipDriver.Proofs.SharedCache
import PipDriver.Proofs.Unlinked

/-!
What a fetch does to the world, and what an acquisition does, where no link is on the way to the cache or in it: one
file is put into the cache or none is, and folders are made on the way.
-/

namespace PipDriver

open Disk AtomicFile

def Disk.Inside (home location : Location) : Prop := ∃ names, names ≠ [] ∧ location = home ++ names

theorem World.fetches_made (world : World) (disk : Disk) (temporaries : List Path) :
    (world.moved disk (temporaries.map .made)).fetches = world.fetches := by
  simp [fetches, List.filterMap_map, Function.comp_def, Event.fetch?]

structure Copying where
  names : List Bytes
  bytes : ByteArray

namespace Cache

section Definitions

variable (cache : Cache)

def home (base : Location) : Location := cache.folder.spot base

structure Direct (world : World) : Prop where
  way : world.disk.Unlinked (cache.folder.trail world.host.folder)
  inside : ∀ names target, world.disk.get? (cache.home world.host.folder ++ names) ≠ some (.link target)

def copied? (uri : Text) (world : World) (answer : Except Failure (Option Path)) : Option Copying :=
  match answer, Cache.relative uri with
  | .ok (some _), .ok relative =>
    (world.contents? (cache.root.join relative)).map fun bytes => { names := core relative.route.names, bytes }
  | _, _ => none

structure Filed (kept : Option Copying) (before after : World) : Prop where
  host : after.host = before.host
  placed : ∀ copying, kept = some copying → copying.names ≠ [] ∧
    after.disk.get? (cache.home before.host.folder ++ copying.names) = some (.file { bytes := copying.bytes })
  elsewhere : ∀ location,
    (∀ copying, kept = some copying → location ≠ cache.home before.host.folder ++ copying.names) →
    after.disk.get? location = before.disk.get? location ∨
      ((location ∈ cache.folder.trail before.host.folder ∨ Inside (cache.home before.host.folder) location) ∧
        before.disk.get? location = none ∧ after.disk.get? location = some .folder)

inductive FetchCourse (uri : Text) (world : World) : Except Failure (Option Path) × World → Prop
  | nothing {answer : Except Failure (Option Path)} (gives : ∀ path, answer ≠ .ok (some path)) :
      FetchCourse uri world (answer, world)
  | refused {relative : Path} {failure : Failure} {temporaries : List Path}
      (named : Cache.relative uri = .ok relative) :
      FetchCourse uri world
        (.error failure, world.moved (prepared world (cache.folder.join relative)) (temporaries.map .made))
  | stored {relative : Path} {bytes : ByteArray} {location : Location} {temporaries : List Path} {after : World}
      (named : Cache.relative uri = .ok relative) (upstream : world.contents? (cache.root.join relative) = some bytes)
      (allowed : (prepared world (cache.folder.join relative)).moveTarget world.host.folder
        (cache.folder.join relative) = .ok location)
      (stands : after = world.moved (stored world (cache.folder.join relative) location bytes)
        (temporaries.map .made)) :
      FetchCourse uri world (.ok (some (cache.folder.join relative)), after)

end Definitions

variable {cache : Cache} {uri : Text} {relative : Path} {before after world : World} {kept : Option Copying}
  {location : Location} {bytes : ByteArray} {events : List Event}

theorem direct_of_check (checked : ∀ entry ∈ world.disk.entries,
    entry.1 ∈ cache.folder.trail world.host.folder ∨ cache.home world.host.folder <+: entry.1 →
      (world.disk.get? entry.1).all fun found => match found with | .link _ => false | _ => true) :
    cache.Direct world := by
  have linkless : ∀ location target,
      location ∈ cache.folder.trail world.host.folder ∨ cache.home world.host.folder <+: location →
        world.disk.get? location ≠ some (.link target) := by
    intro location target concerned linked
    have below : location ≠ [] := by
      rintro rfl
      simp at linked
    have clear := checked _ (mem_of_get? below linked) concerned
    simp [linked] at clear
  exact ⟨fun stop member target => linkless stop target (Or.inl member),
    fun names target => linkless _ target (Or.inr (List.prefix_append _ names))⟩

theorem copied?_eq_none {answer : Except Failure (Option Path)} (gives : ∀ path, answer ≠ .ok (some path)) :
    cache.copied? uri world answer = none := by
  unfold copied?
  split
  · exact (gives _ rfl).elim
  · rfl

section Left

theorem filed_nothing (cache : Cache) (world : World) : cache.Filed none world world where
  host := rfl
  placed := fun _ impossible => nomatch impossible
  elsewhere := fun _ _ => Or.inl rfl

theorem Filed.outside (filed : cache.Filed kept before after)
    (apart : ¬Inside (cache.home before.host.folder) location) :
    after.disk.get? location = before.disk.get? location ∨
      (location ∈ cache.folder.trail before.host.folder ∧ before.disk.get? location = none ∧
        after.disk.get? location = some .folder) := by
  have other : ∀ copying, kept = some copying → location ≠ cache.home before.host.folder ++ copying.names :=
    fun copying given same => apart ⟨copying.names, (filed.placed copying given).1, same⟩
  rcases filed.elsewhere location other with same | ⟨onWay | inside, absent, made⟩
  · exact Or.inl same
  · exact Or.inr ⟨onWay, absent, made⟩
  · exact (apart inside).elim

theorem Filed.still (filed : cache.Filed none before after) (location : Location) (file : File) :
    after.disk.get? location = some (.file file) ↔ before.disk.get? location = some (.file file) := by
  rcases filed.elsewhere location (by simp) with same | ⟨-, absent, made⟩
  · rw [same]
  · simp [absent, made]

theorem Filed.direct (filed : cache.Filed kept before after) (direct : cache.Direct before) :
    cache.Direct after := by
  have linkless : ∀ location target, before.disk.get? location ≠ some (.link target) →
      after.disk.get? location ≠ some (.link target) := by
    intro location target unlinked linked
    by_cases place : ∃ copying, kept = some copying ∧ location = cache.home before.host.folder ++ copying.names
    · obtain ⟨copying, given, rfl⟩ := place
      have there := (filed.placed copying given).2
      rw [linked] at there
      cases there
    · have other : ∀ copying, kept = some copying → location ≠ cache.home before.host.folder ++ copying.names :=
        fun copying given same => place ⟨copying, given, same⟩
      rcases filed.elsewhere location other with same | ⟨-, -, made⟩
      · exact unlinked (same ▸ linked)
      · rw [linked] at made
        cases made
  constructor
  · intro stop member target
    rw [filed.host] at member
    exact linkless stop target (direct.way stop member target)
  · intro names target
    rw [filed.host]
    exact linkless _ target (direct.inside names target)

end Left

theorem mem_copy_trail (named : Cache.relative uri = .ok relative) {base stop : Location}
    (member : stop ∈ (cache.folder.join relative).trail base) :
    stop ∈ cache.folder.trail base ∨ Inside (cache.home base) stop := by
  obtain ⟨absolute, within, -⟩ := inside_of_relative named
  rw [Path.trail, Company.join_startOf base cache.folder absolute,
    (Path.route_join_relative cache.folder absolute).1, stops_append] at member
  rcases List.mem_append.mp member with early | late
  · exact Or.inl early
  · obtain ⟨names, some_, -, same⟩ := (mem_stops_inside _ within).mp late
    exact Or.inr ⟨names, some_, same⟩

section Unlinked

variable (direct : cache.Direct world) (named : Cache.relative uri = .ok relative)
include direct named

theorem Direct.copy : world.disk.Unlinked ((cache.folder.join relative).trail world.host.folder) := by
  intro stop member
  rcases mem_copy_trail named member with onWay | ⟨names, -, rfl⟩
  · exact direct.way stop onWay
  · exact direct.inside names

theorem Direct.prepared : (prepared world (cache.folder.join relative)).Unlinked
    ((cache.folder.join relative).trail world.host.folder) :=
  (prepared_built world _).unlinked (direct.copy named)

theorem Direct.place (allowed : (AtomicFile.prepared world (cache.folder.join relative)).moveTarget world.host.folder
    (cache.folder.join relative) = .ok location) :
    core relative.route.names ≠ [] ∧ location = cache.home world.host.folder ++ core relative.route.names := by
  obtain ⟨absolute, within, given⟩ := inside_of_relative named
  obtain ⟨fit, -, -, rfl⟩ := Path.moveTarget_unlinked (direct.prepared named) allowed
  obtain ⟨last, final, plain⟩ := fit.last
  refine ⟨?_, Company.join_spot _ _ absolute within⟩
  have some_ := Company.names_ne_nil absolute given
  rw [(Path.route_join_relative cache.folder absolute).1, List.getLast?_append,
    List.getLast?_eq_some_getLast some_, Option.some_or, Option.some.injEq] at final
  have kept : last ∈ core relative.route.names :=
    List.mem_filter.mpr ⟨final ▸ List.getLast_mem some_, by simpa using plain.notDot⟩
  exact List.ne_nil_of_mem kept

theorem Direct.filed_prepared (events : List Event) :
    cache.Filed none world (world.moved (AtomicFile.prepared world (cache.folder.join relative)) events) where
  host := rfl
  placed := fun _ impossible => nomatch impossible
  elsewhere := fun location _ =>
    (prepared_builtOn (direct.copy named) location).imp_right (And.imp_left (mem_copy_trail named))

theorem Direct.filed_stored (allowed : (AtomicFile.prepared world (cache.folder.join relative)).moveTarget
    world.host.folder (cache.folder.join relative) = .ok location) (bytes : ByteArray) (events : List Event) :
    cache.Filed (some { names := core relative.route.names, bytes }) world
      (world.moved (stored world (cache.folder.join relative) location bytes) events) := by
  obtain ⟨some_, rfl⟩ := direct.place named allowed
  refine ⟨rfl, ?_, ?_⟩
  · rintro copying ⟨⟩
    exact ⟨some_, get?_put_self _ _ _ (by simp [some_])⟩
  · intro stop other
    rw [World.moved_disk, stored, get?_put_of_ne _ _ _ _ (other _ rfl)]
    exact (direct.filed_prepared named events).elsewhere stop (by simp)

/-- The copy and the resource hold the same once the copy is made. -/
theorem Direct.stored_contents (upstream : world.contents? (cache.root.join relative) = some bytes)
    (allowed : (AtomicFile.prepared world (cache.folder.join relative)).moveTarget world.host.folder
      (cache.folder.join relative) = .ok location)
    (stands : after = world.moved (stored world (cache.folder.join relative) location bytes) events) :
    after.contents? (cache.folder.join relative) = some bytes ∧
      after.contents? (cache.root.join relative) = some bytes := by
  obtain ⟨fit, folders, proper, spot⟩ := Path.moveTarget_unlinked (direct.prepared named) allowed
  constructor
  · obtain ⟨some_, place⟩ := direct.place named allowed
    subst stands
    have there : (stored world (cache.folder.join relative) location bytes).get? location = some (.file { bytes }) :=
      get?_put_self _ _ _ (by simp [place, some_])
    have kept : ∀ way ∈ (cache.folder.join relative).ways world.host.folder,
        (stored world (cache.folder.join relative) location bytes).get? way = some .folder := by
      intro way member
      have other : way ≠ location := by
        rintro rfl
        exact proper (spot ▸ folders _ member)
      rw [stored, get?_put_of_ne _ _ _ _ other]
      exact folders way member
    rw [spot] at there kept ⊢
    exact contents?_eq_some_iff.mpr ⟨_, _, fit.find_leaf kept there rfl true, rfl⟩
  · rcases (stored_contents? upstream allowed stands).2 with beside | beside
    · exact beside
    · obtain ⟨other, target, same, linked, -⟩ := cutsOff_of_lost upstream allowed stands beside
      rw [allowed, Except.ok.injEq] at same
      rw [← same, spot] at linked
      exact (direct.prepared named _ (fit.spot_mem_trail _) target linked).elim

end Unlinked

theorem fetch_course (cache : Cache) (uri : Text) (world : World) :
    cache.FetchCourse uri world (cache.fetch uri world) := by
  cases named : Cache.relative uri with
  | error cause =>
      have refused : cache.fetch uri world = (.error (.badUri uri cause), world) := by
        simp [fetch, Step.bind_apply, resourcePath, below, named]
      rw [refused]
      exact .nothing (by simp)
  | ok relative =>
      cases upstream : world.contents? (cache.root.join relative) with
      | none =>
          have gone : world.isFile (cache.root.join relative) = false := by
            rw [World.isFile_eq_isSome_contents?, upstream]
            rfl
          have missing : cache.fetch uri world = (.ok none, world) := by
            simp [fetch, Step.bind_apply, resourcePath_eq named, gone]
          rw [missing]
          exact .nothing (by simp)
      | some bytes =>
          have there : world.isFile (cache.root.join relative) = true := by
            rw [World.isFile_eq_isSome_contents?, upstream]
            rfl
          have read : Step.read (cache.root.join relative) world = (.ok bytes, world) := by
            simp [Step.read, World.read_of_contents? upstream]
          have copied : cache.fetch uri world =
              ((AtomicFile.write (cache.folder.join relative) bytes world).1.map fun _ =>
                some (cache.folder.join relative), (AtomicFile.write (cache.folder.join relative) bytes world).2) := by
            simp only [fetch, Step.bind_apply, Step.check_apply, Step.look_apply, resourcePath_eq named, there,
              if_true, copyPath_eq named, AtomicFile.copy, read]
            obtain ⟨answer, after⟩ := AtomicFile.write (cache.folder.join relative) bytes world
            cases answer <;> rfl
          rw [copied]
          obtain ⟨temporaries, -, ⟨place, fault, ended⟩ | ⟨location, allowed, ended⟩⟩ :=
            write_cases (cache.folder.join relative) bytes world
          · rw [ended]
            exact .refused named
          · rw [ended]
            exact .stored named upstream allowed rfl

theorem Direct.filed_fetch (direct : cache.Direct world) (uri : Text) :
    cache.Filed (cache.copied? uri world (cache.fetch uri world).1) world (cache.fetch uri world).2 := by
  have course := fetch_course cache uri world
  generalize cache.fetch uri world = ended at course
  cases course with
  | nothing gives =>
      rw [copied?_eq_none gives]
      exact filed_nothing cache world
  | refused named =>
      rw [copied?_eq_none (by simp)]
      exact direct.filed_prepared named _
  | stored named upstream allowed stands =>
      simp only [copied?, named, upstream, Option.map_some, stands]
      exact direct.filed_stored named allowed _ _

theorem fetch_fetches (cache : Cache) (uri : Text) (world : World) :
    (cache.fetch uri world).2.fetches = world.fetches := by
  have course := fetch_course cache uri world
  generalize cache.fetch uri world = ended at course
  cases course with
  | nothing _ => rfl
  | refused _ => exact World.fetches_made _ _ _
  | stored _ _ _ stands =>
      rw [stands]
      exact World.fetches_made _ _ _

theorem fetchRecorded_apply (cache : Cache) (uri : Text) (world : World) :
    cache.fetchRecorded uri world = cache.fetch uri (world.moved world.disk [.fetched uri]) :=
  Step.bind_of_ok (Step.record_apply _ _) _

theorem Direct.filed_fetchRecorded (direct : cache.Direct world) (uri : Text) :
    cache.Filed (cache.copied? uri world (cache.fetchRecorded uri world).1) world
      (cache.fetchRecorded uri world).2 := by
  have told : cache.Direct (world.moved world.disk [.fetched uri]) := ⟨direct.way, direct.inside⟩
  rw [fetchRecorded_apply]
  obtain ⟨host, placed, elsewhere⟩ := told.filed_fetch uri
  exact ⟨host, placed, elsewhere⟩

theorem fetchRecorded_fetches (cache : Cache) (uri : Text) (world : World) :
    (cache.fetchRecorded uri world).2.fetches = world.fetches ++ [uri] := by
  rw [fetchRecorded_apply, fetch_fetches]
  simp [World.fetches, Event.fetch?]

/-- Where no link misleads, what was just fetched is not fetched again. -/
theorem Direct.acquire_once (direct : cache.Direct world) (source : Source) :
    (∃ answer, cache.acquire source world = (answer, world)) ∨
      ∃ uri, source = .remote uri ∧ cache.acquire source world = cache.fetchRecorded uri world := by
  cases source with
  | onHost path => exact Or.inl ⟨_, rfl⟩
  | remote uri =>
      rw [acquire_remote]
      cases named : Cache.relative uri with
      | error cause => exact Or.inl ⟨_, currentCopy_bad named world⟩
      | ok relative =>
          cases cached : world.contents? (cache.folder.join relative) with
          | some old =>
              rw [currentCopy_of_kept named cached]
              rcases cache.isOutdated world uri (cache.folder.join relative) with failure | outdated
              · exact Or.inl ⟨_, rfl⟩
              · cases outdated with
                | false => exact Or.inl ⟨_, rfl⟩
                | true => exact Or.inr ⟨uri, rfl, rfl⟩
          | none =>
              refine Or.inr ⟨uri, rfl, ?_⟩
              rw [currentCopy_of_not_kept named cached, fetchRecorded_apply]
              have told : cache.Direct (world.moved world.disk [.fetched uri]) := ⟨direct.way, direct.inside⟩
              have course := fetch_course cache uri (world.moved world.disk [.fetched uri])
              generalize cache.fetch uri (world.moved world.disk [.fetched uri]) = ended at course
              cases course with
              | @nothing answer gives =>
                  cases answer with
                  | error failure => rfl
                  | ok given =>
                      cases given with
                      | none => rfl
                      | some path => exact (gives path rfl).elim
              | refused _ => rfl
              | stored again upstream allowed stands =>
                  obtain rfl := Except.ok.inj (again.symm.trans named)
                  obtain ⟨copied, beside⟩ := told.stored_contents named upstream allowed stands
                  simp [isOutdated_of_contents? named beside copied]

end Cache

end PipDriver
