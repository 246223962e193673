import PipDriver.Proofs.Changes
import PipDriver.Proofs.Steps
import PipDriver.Storage.AtomicFile
import PipDriver.Storage.ScopedCopy

/-!
Temporary files from their making to their removal. A file written in one step leaves either nothing but
folders, or the new file in its place; its temporary file is gone in both cases.
-/

namespace PipDriver

open Bytes (slash)

open Disk

structure Temporary.Made (world : World) (other path : Path) (folder : Location) (name : Bytes) : Prop where
  free : world.disk.find world.host.folder path false = .ok (.vacant folder name false)
  last : path.route.names.getLast? = some name
  unclosed : path.route.closed = false
  fresh : world.disk.isFresh name = true
  apart : name ∉ other.route.names

structure Path.IsNamed (start : Bytes) (path : Path) : Prop where
  begins : ∃ rest, path.route.names.getLast? = some (start ++ rest)
  unclosed : path.route.closed = false

namespace Temporary

def emptyFile : File := { bytes := .empty }

theorem emptyFile_executable : emptyFile.executable = false := rfl

variable {world : World} {other path : Path} {folder : Location} {name : Bytes}

theorem make_cases (reported into other : Path) (start ending : Bytes) (given : start ≠ [])
    (startWhole : slash ∉ start) (endingWhole : slash ∉ ending) (world : World) :
    (∃ fault, make reported into other start ending world = (.error (.file reported fault), world)) ∨
    ∃ path folder name, Made world other path folder name ∧
      (∃ number, name = start ++ serial number ++ ending) ∧ path = pathIn world into name ∧
      make reported into other start ending world =
        (.ok path, world.moved (world.disk.put (folder ++ [name]) (.file emptyFile)) [.made path]) := by
  unfold make
  cases chosen : nameFor? world other start ending with
  | none => exact Or.inl ⟨_, rfl⟩
  | some name =>
      have isChosen := isChosen_of_freshName? chosen
      have isName := isChosen.isName given startWhole endingWhole
      have route := Path.route_join isName (World.absolute_isEmpty world into)
      cases done : world.disk.makeFile world.host.folder (pathIn world into name) with
      | error fault => exact Or.inl ⟨.unplaced fault (pathIn world into name), by simp only [done]⟩
      | ok disk =>
          obtain ⟨folder, free, found, rfl⟩ := find_of_makeFile done
          have same : some name = some free := route.1.symm.trans (namedBy_of_find route.2 found)
          simp only [Option.some.injEq] at same
          subst same
          refine Or.inr ⟨_, folder, name, ⟨found, route.1, route.2, isChosen.fresh, isChosen.apart⟩,
            isChosen.shape, rfl, ?_⟩
          simp only [done]
          rfl

theorem Made.isNamed (made : Made world other path folder name) {start ending : Bytes}
    (shape : ∃ number, name = start ++ serial number ++ ending) : path.IsNamed start := by
  obtain ⟨number, same⟩ := shape
  refine ⟨⟨serial number ++ ending, ?_⟩, made.unclosed⟩
  rw [made.last, same, List.append_assoc]

theorem Made.absent (made : Made world other path folder name) :
    world.disk.get? (folder ++ [name]) = none :=
  get?_of_find_free made.free

theorem Made.find_filled (made : Made world other path folder name) (file : File) (followLast : Bool) :
    (world.disk.put (folder ++ [name]) (.file file)).find world.host.folder path followLast =
      .ok (.occupied (folder ++ [name]) (.file file)) :=
  Disk.find_filled made.free (keptOff_put _ _ _) (get?_put_self _ _ _ (by simp)) followLast

theorem Made.erase_filled (made : Made world other path folder name) (entry : Entry) :
    (world.disk.put (folder ++ [name]) entry).erase (folder ++ [name]) = world.disk := by
  rw [erase_put, erase_of_get?_eq_none (by simp) made.absent]

theorem Made.plain (made : Made world other path folder name) : Plain name :=
  (arrives_of_find made.free).holds.2

theorem Made.not_holds_before {before : Disk} (made : Made world other path folder name)
    (kept : ∀ location entry, before.get? location = some entry → ∃ other, world.disk.get? location = some other) :
    before.holds world.host.folder path = false := by
  cases there : before.holds world.host.folder path with
  | false => rfl
  | true =>
      unfold holds at there
      split at there
      · rename_i location entry found
        obtain ⟨named, held⟩ := last_of_find made.plain.notDot made.plain.notDots made.last made.unclosed found
        obtain ⟨_, present⟩ := kept location entry held
        simp [get?_of_isFresh made.fresh named] at present
      · cases there

theorem Made.not_holds (made : Made world other path folder name) :
    world.disk.holds world.host.folder path = false := by
  simp [holds, made.free]

theorem pathIn_of_host_eq {world other : World} (same : other.host = world.host) (name : Bytes) :
    pathIn other other.temporaryFolder name = pathIn world world.temporaryFolder name := by
  obtain ⟨disk, host, events⟩ := world
  obtain ⟨otherDisk, otherHost, otherEvents⟩ := other
  cases same
  rfl

theorem remove_filled (made : Made world other path folder name) (file : File) (events : List Event) :
    remove path (world.moved (world.disk.put (folder ++ [name]) (.file file)) events) =
      world.moved world.disk events := by
  simp only [remove, removeFile, World.moved_disk, World.moved_host, made.find_filled, made.erase_filled]
  rfl

theorem remove_of_not_holds {world : World} {path : Path}
    (absent : world.disk.holds world.host.folder path = false) : remove path world = world := by
  unfold holds at absent
  unfold remove removeFile
  cases found : world.disk.find world.host.folder path false with
  | error fault => rfl
  | ok place =>
      cases place with
      | occupied location entry => simp [found] at absent
      | vacant folder name asked => rfl

end Temporary

namespace AtomicFile

def prepared (world : World) (path : Path) : Disk :=
  match path.parent? with
  | none => world.disk
  | some parent => (world.disk.makeFolders world.host.folder parent).2

theorem prepared_built (world : World) (path : Path) : Built world.disk (prepared world path) := by
  unfold prepared
  split
  · exact Built.refl _
  · exact makeFolders_built _ _ _

theorem prepareFolder_cases (path : Path) (world : World) :
    (∃ place fault, prepareFolder path world =
      (.error (.file place fault), world.moved (prepared world path) [])) ∨
    prepareFolder path world = (.ok (), world.moved (prepared world path) []) := by
  unfold prepareFolder prepared
  cases path.parent? with
  | none => exact Or.inr (by simp)
  | some parent =>
      cases made : world.disk.makeFolders world.host.folder parent with
      | mk answer disk =>
          cases answer with
          | error fault => exact Or.inl ⟨parent, fault, by simp [made, World.moved]⟩
          | ok done => exact Or.inr (by simp [made, World.moved])

theorem move_filled {world : World} {other path : Path} {folder : Location} {name : Bytes}
    (made : Temporary.Made world other path folder name) (file : File) :
    (world.disk.put (folder ++ [name]) (.file file)).move world.host.folder (folder ++ [name]) other =
      ((world.disk.put (folder ++ [name]) (.file file)).moveTarget world.host.folder other).map
        fun location => world.disk.put location (.file file) := by
  simp only [move, get?_put_self _ _ _ (by simp : folder ++ [name] ≠ []), made.erase_filled]
  cases (world.disk.put (folder ++ [name]) (.file file)).moveTarget world.host.folder other <;> rfl

theorem moveTarget_unfilled {world : World} {other path : Path} {folder : Location} {name : Bytes}
    {file : File} {location : Location} (made : Temporary.Made world other path folder name)
    (allowed : (world.disk.put (folder ++ [name]) (.file file)).moveTarget world.host.folder other =
      .ok location) :
    world.disk.moveTarget world.host.folder other = .ok location ∧ location.getLast? ≠ some name := by
  obtain ⟨parent, last, rfl, ⟨place, found, stops⟩, unclosed, named⟩ := spot_of_moveTarget allowed
  have different : last ≠ name := by
    rintro rfl
    exact made.apart (List.mem_of_getLast? named)
  have apart : parent ++ [last] ≠ folder ++ [name] := by
    simp [different]
  refine ⟨?_, by simp [different]⟩
  have keeps : KeepsCourse (world.disk.put (folder ++ [name]) (.file file)) world.disk (folder ++ [name])
      place := by
    constructor
    · intro where_ entry off there
      rwa [get?_put_of_ne _ _ _ _ off] at there
    · rintro here free asked rfl off
      have absent := (arrives_of_find found).holds.1
      rwa [get?_put_of_ne _ _ _ _ off] at absent
  have same : world.disk.find world.host.folder other false = .ok place := by
    rw [find_eq_walk (usable_of_find found)]
    rcases (arrives_of_find found).dichotomy folder name with
      steady | ⟨plain, left, rest, asked, course⟩
    · exact steady _ keeps
    · have arrived := course _ false (by simp) (KeptOff.refl _ _)
      rw [(arrives_of_find found).walk_eq] at arrived
      have there : (world.disk.put (folder ++ [name]) (.file file)).get? (folder ++ [name]) =
          some (.file file) := get?_put_self _ _ _ (by simp)
      -- A walk that comes to the temporary file ends there, and the target has another name.
      rcases walk_at_leaf false left rest asked plain there rfl with ended | ended
      · rw [ended, Except.ok.injEq] at arrived
        subst arrived
        exact (apart stops.1.symm).elim
      · simp [ended] at arrived
  rw [← allowed]
  unfold moveTarget
  rw [Path.openEnd_eq_self unclosed, found, same]

theorem not_holds_taken {world : World} {other path : Path} {folder : Location} {name : Bytes}
    {location : Location} (made : Temporary.Made world other path folder name) (file : File)
    (parent : Location) (last : Bytes) (spot : location = parent ++ [last])
    (apart : location.getLast? ≠ some name) :
    (world.disk.put location (.file file)).holds world.host.folder path = false := by
  subst spot
  have different : last ≠ name := by simpa using apart
  have keeps : KeepsCourse world.disk (world.disk.put (parent ++ [last]) (.file file)) (parent ++ [last])
      (.vacant folder name false) := by
    refine ⟨keptOff_put _ _ _, ?_⟩
    rintro _ _ _ ⟨⟩ off
    rw [get?_put_of_ne _ _ _ _ off]
    exact made.absent
  have there : (world.disk.put (parent ++ [last]) (.file file)).get? (parent ++ [last]) =
      some (.file file) := get?_put_self _ _ _ (by simp)
  rw [holds, find_eq_walk (usable_of_find made.free)]
  rcases (arrives_of_find made.free).dichotomy parent last with
    steady | ⟨plain, left, rest, asked, course⟩
  · rw [steady _ keeps]
  · have arrived := course _ false (by simp) (keptOff_put world.disk (parent ++ [last]) (.file file))
    rcases walk_at_leaf false left rest asked plain there rfl with ended | ended
    · have named := (arrives_of_walk (arrived.trans ended)).namedBy rfl made.unclosed
      rcases named with ⟨named, -⟩ | ⟨impossible, -⟩
      · rw [made.last, List.getLast?_concat, Option.some.injEq] at named
        exact (different named).elim
      · cases impossible
    · rw [arrived, ended]

def stored (world : World) (path : Path) (location : Location) (bytes : ByteArray) : Disk :=
  (prepared world path).put location (.file { bytes })

def target? (world : World) (path : Path) : Option Location :=
  ((prepared world path).moveTarget world.host.folder path).toOption

def Gone (world : World) (temporaries : List Path) : Prop :=
  ∀ temporary ∈ temporaries, world.disk.holds world.host.folder temporary = false ∧
    temporary.IsNamed nameStart

section

variable {world : World} {path temporary : Path} {folder : Location} {name : Bytes}
  (made : Temporary.Made world path temporary folder name) (bytes : ByteArray) (events : List Event)
include made

theorem change_filled {old : File} (plain : old.executable = false) :
    (Step.change temporary fun disk base => disk.write base temporary { bytes })
      (world.moved (world.disk.put (folder ++ [name]) (.file old)) events) =
        (.ok (), world.moved (world.disk.put (folder ++ [name]) (.file { bytes })) events) := by
  have written := write_occupied (made.find_filled old true) { bytes }
  rw [put_put, plain] at written
  simp only [Step.change_apply, World.moved_disk, World.moved_host, written, World.moved_moved,
    List.append_nil]
  rfl

theorem moveTo_filled :
    (∃ fault, moveTo temporary path
      (world.moved (world.disk.put (folder ++ [name]) (.file { bytes })) events) =
        (.error (.file path fault), world.moved (world.disk.put (folder ++ [name]) (.file { bytes })) events)) ∨
    ∃ location, world.disk.moveTarget world.host.folder path = .ok location ∧
      (world.disk.put location (.file { bytes })).holds world.host.folder temporary = false ∧
      moveTo temporary path (world.moved (world.disk.put (folder ++ [name]) (.file { bytes })) events) =
        (.ok (), world.moved (world.disk.put location (.file { bytes })) events) := by
  cases allowed : (world.disk.put (folder ++ [name]) (.file { bytes })).moveTarget world.host.folder path with
  | error fault =>
      refine Or.inl ⟨fault, ?_⟩
      simp [moveTo, Step.change_apply, made.find_filled, move_filled made, allowed, Except.map]
  | ok location =>
      obtain ⟨same, apart⟩ := moveTarget_unfilled made allowed
      obtain ⟨parent, last, spot, -, -, -⟩ := spot_of_moveTarget same
      refine Or.inr ⟨location, same, not_holds_taken made { bytes } parent last spot apart, ?_⟩
      simp [moveTo, Step.change_apply, made.find_filled, move_filled made, allowed, Except.map]

theorem replace_cases :
    (∃ fault, Step.thenTidy
      (do
        Step.change temporary fun disk base => disk.write base temporary { bytes }
        moveTo temporary path)
      (Temporary.remove temporary)
      (world.moved (world.disk.put (folder ++ [name]) (.file Temporary.emptyFile)) events) =
        (.error (.file path fault), world.moved world.disk events)) ∨
    ∃ location, world.disk.moveTarget world.host.folder path = .ok location ∧
      (world.disk.put location (.file { bytes })).holds world.host.folder temporary = false ∧
      Step.thenTidy
        (do
          Step.change temporary fun disk base => disk.write base temporary { bytes }
          moveTo temporary path)
        (Temporary.remove temporary)
        (world.moved (world.disk.put (folder ++ [name]) (.file Temporary.emptyFile)) events) =
          (.ok (), world.moved (world.disk.put location (.file { bytes })) events) := by
  rw [Step.thenTidy_apply, Step.bind_of_ok (change_filled made bytes events Temporary.emptyFile_executable)]
  rcases moveTo_filled made bytes events with ⟨fault, refused⟩ | ⟨location, same, gone, moving⟩
  · rw [refused]
    exact Or.inl ⟨fault, by rw [Temporary.remove_filled made]⟩
  · rw [moving]
    exact Or.inr ⟨location, same, gone, by rw [Temporary.remove_of_not_holds gone]⟩

end

/-- A write makes folders, and then puts the new file in its place or is refused; its temporary file is gone. -/
theorem write_cases (path : Path) (bytes : ByteArray) (world : World) : ∃ temporaries : List Path,
    Gone (write path bytes world).2 temporaries ∧
    ((∃ place fault, write path bytes world =
      (.error (.file place fault), world.moved (prepared world path) (temporaries.map .made))) ∨
    ∃ location, (prepared world path).moveTarget world.host.folder path = .ok location ∧
      write path bytes world = (.ok (), world.moved (stored world path location bytes) (temporaries.map .made))) := by
  unfold write
  rcases prepareFolder_cases path world with ⟨place, fault, refused⟩ | ready
  · rw [Step.bind_of_error refused]
    exact ⟨[], by simp [Gone], Or.inl ⟨place, fault, rfl⟩⟩
  rw [Step.bind_of_ok ready, Step.bind_of_ok (Step.look_apply _ _)]
  rcases Temporary.make_cases path (folderOf (world.moved (prepared world path) []) path) path
    nameStart nameEnding (by decide) (by decide) (by decide)
    (world.moved (prepared world path) []) with
    ⟨fault, refused⟩ | ⟨temporary, folder, name, made, shape, -, done⟩
  · rw [Step.bind_of_error refused]
    exact ⟨[], by simp [Gone], Or.inl ⟨path, fault, rfl⟩⟩
  · have named := made.isNamed shape
    rw [Step.bind_of_ok done]
    rcases replace_cases made bytes [.made temporary] with ⟨fault, ended⟩ | ⟨location, same, gone, ended⟩
    · rw [ended]
      exact ⟨[temporary], by simpa [Gone, named] using made.not_holds, Or.inl ⟨path, fault, by simp⟩⟩
    · rw [ended]
      exact ⟨[temporary], by simpa [Gone, named] using gone, Or.inr ⟨location, same, by simp [stored]⟩⟩

/-- A write that is not refused has made its temporary file, and moved it to where it was allowed. -/
theorem made_of_write {path : Path} {bytes : ByteArray} {world : World} (done : (write path bytes world).1 = .ok ()) :
    (∃ location, (prepared world path).moveTarget world.host.folder path = .ok location) ∧
    ∃ temporary folder name, Temporary.Made (world.moved (prepared world path) []) path temporary folder name ∧
      (∃ number, name = nameStart ++ serial number ++ nameEnding) ∧
      temporary = Temporary.pathIn (world.moved (prepared world path) [])
        (folderOf (world.moved (prepared world path) []) path) name := by
  constructor
  · obtain ⟨temporaries, -, ⟨place, fault, ended⟩ | ⟨location, allowed, -⟩⟩ := write_cases path bytes world
    · rw [ended] at done
      cases done
    · exact ⟨location, allowed⟩
  · unfold write at done
    rcases prepareFolder_cases path world with ⟨place, fault, refused⟩ | ready
    · rw [Step.bind_of_error refused] at done
      cases done
    rw [Step.bind_of_ok ready, Step.bind_of_ok (Step.look_apply _ _)] at done
    rcases Temporary.make_cases path (folderOf (world.moved (prepared world path) []) path) path
      nameStart nameEnding (by decide) (by decide) (by decide)
      (world.moved (prepared world path) []) with ⟨fault, refused⟩ | ⟨temporary, folder, name, made, shape, placed, -⟩
    · rw [Step.bind_of_error refused] at done
      cases done
    · exact ⟨temporary, folder, name, made, shape, placed⟩

structure Worked (before after : World) (target : Option Location) (events : List Event) : Prop where
  stands : after = before.moved after.disk events
  asked : ∀ event ∈ events, (∃ uri, event = .fetched uri) ∨ ∃ temporary, event = .made temporary
  gone : ∀ temporary, .made temporary ∈ events →
    after.disk.holds after.host.folder temporary = false ∧ temporary.IsNamed nameStart
  kept : ∀ location entry, before.disk.get? location = some entry →
    after.disk.get? location = some entry ∨
      (target = some location ∧ ∃ file, after.disk.get? location = some (.file file))
  came : ∀ location entry, after.disk.get? location = some entry →
    before.disk.get? location = some entry ∨ entry = .folder ∨ target = some location

section

variable {world before after : World} {path : Path} {location : Location} {bytes : ByteArray}
  {target : Option Location} {events : List Event} {temporaries : List Path}

theorem Worked.events_eq (worked : Worked before after target events) :
    after.events = before.events ++ events := by
  rw [worked.stands]
  rfl

theorem Worked.host_eq (worked : Worked before after target events) : after.host = before.host := by
  rw [worked.stands]
  rfl

theorem Worked.run?_eq_none (worked : Worked before after target events) (event : Event)
    (member : event ∈ events) : event.run? = none := by
  rcases worked.asked event member with ⟨uri, rfl⟩ | ⟨temporary, rfl⟩ <;> rfl

theorem Worked.quiet_append {more : List Event} (worked : Worked before after target events)
    (quiet : ∀ event ∈ more, event.run? = none) : ∀ event ∈ events ++ more, event.run? = none := by
  intro event member
  rcases List.mem_append.mp member with early | late
  · exact worked.run?_eq_none event early
  · exact quiet event late

theorem Worked.ownerChanges_eq (worked : Worked before after target events) :
    events.filterMap Event.ownerChange? = [] := by
  rw [List.filterMap_eq_nil_iff]
  intro event member
  rcases worked.asked event member with ⟨uri, rfl⟩ | ⟨temporary, rfl⟩ <;> rfl

theorem Worked.occupied (worked : Worked before after target events) (location : Location) (entry : Entry)
    (found : before.disk.get? location = some entry) : ∃ other, after.disk.get? location = some other := by
  rcases worked.kept location entry found with same | ⟨-, file, same⟩
  · exact ⟨_, same⟩
  · exact ⟨_, same⟩

theorem worked_nothing (world : World) (target : Option Location) : Worked world world target [] where
  stands := by simp
  asked := by simp
  gone := by simp
  kept := fun _ _ found => Or.inl found
  came := fun _ _ found => Or.inl found

def Accounted (events : List Event) (temporaries : List Path) : Prop :=
  ∀ event ∈ events, (∃ uri, event = .fetched uri) ∨ ∃ temporary ∈ temporaries, event = .made temporary

theorem Accounted.asked (accounted : Accounted events temporaries) :
    ∀ event ∈ events, (∃ uri, event = .fetched uri) ∨ ∃ temporary, event = .made temporary := by
  intro event member
  rcases accounted event member with fetched | ⟨temporary, -, same⟩
  · exact Or.inl fetched
  · exact Or.inr ⟨temporary, same⟩

theorem Accounted.gone (accounted : Accounted events temporaries)
    (gone : Gone after temporaries) (temporary : Path) (member : .made temporary ∈ events) :
    after.disk.holds after.host.folder temporary = false ∧ temporary.IsNamed nameStart := by
  rcases accounted _ member with ⟨uri, same⟩ | ⟨other, listed, same⟩
  · cases same
  · cases same
    exact gone temporary listed

theorem worked_prepared (target : Option Location) (accounted : Accounted events temporaries)
    (gone : Gone (world.moved (prepared world path) events) temporaries) :
    Worked world (world.moved (prepared world path) events) target events where
  stands := rfl
  asked := accounted.asked
  gone := accounted.gone gone
  kept := fun location entry found => Or.inl ((prepared_built world path).kept location entry found)
  came := fun location entry found => (prepared_built world path).came location entry found |>.imp_right Or.inl

theorem worked_stored (accounted : Accounted events temporaries)
    (allowed : (prepared world path).moveTarget world.host.folder path = .ok location)
    (stands : after = world.moved (stored world path location bytes) events)
    (gone : Gone after temporaries) : Worked world after (target? world path) events where
  stands := by rw [stands]; rfl
  asked := accounted.asked
  gone := accounted.gone gone
  kept := by
    intro where_ entry found
    subst stands
    by_cases same : where_ = location
    · subst same
      obtain ⟨folder, name, rfl, -⟩ := spot_of_moveTarget allowed
      exact Or.inr ⟨by rw [target?, allowed]; rfl, _, get?_put_self _ _ _ (by simp)⟩
    · refine Or.inl ?_
      rw [World.moved_disk, stored, get?_put_of_ne _ _ _ _ same]
      exact (prepared_built world path).kept where_ entry found
  came := by
    intro where_ entry found
    subst stands
    by_cases same : where_ = location
    · subst same
      exact Or.inr (Or.inr (by rw [target?, allowed]; rfl))
    · rw [World.moved_disk, stored, get?_put_of_ne _ _ _ _ same] at found
      exact (prepared_built world path).came where_ entry found |>.imp_right Or.inl

end

theorem write_worked (path : Path) (bytes : ByteArray) (world : World) :
    ∃ events, Worked world (write path bytes world).2 (target? world path) events := by
  obtain ⟨temporaries, gone, ended⟩ := write_cases path bytes world
  have accounted : Accounted (temporaries.map .made) temporaries := by
    intro event member
    obtain ⟨temporary, listed, same⟩ := List.mem_map.mp member
    exact Or.inr ⟨temporary, listed, same.symm⟩
  rcases ended with ⟨place, fault, ended⟩ | ⟨location, allowed, ended⟩
  · rw [ended] at gone ⊢
    exact ⟨_, worked_prepared _ accounted gone⟩
  · rw [ended] at gone ⊢
    exact ⟨_, worked_stored accounted allowed rfl gone⟩

theorem copy_worked (source target : Path) (world : World) :
    ∃ events, Worked world (copy source target world).2 (target? world target) events := by
  unfold copy
  cases taken : Step.read source world with
  | mk answer after =>
      have same : after = world := congrArg Prod.snd taken.symm
      subst same
      cases answer with
      | error failure =>
          rw [Step.bind_of_error taken]
          exact ⟨[], worked_nothing _ _⟩
      | ok bytes =>
          rw [Step.bind_of_ok taken]
          exact write_worked target bytes after

end AtomicFile

namespace ScopedCopy

structure Filled (world : World) (source copy : Path) (folder : Location) (name : Bytes) (file : File)
    (filled : World) : Prop where
  made : Temporary.Made world source copy folder name
  shape : ∃ number, name = nameStart ++ serial number ++ nameEnding
  stands : filled = world.moved (world.disk.put (folder ++ [name]) (.file file)) [.made copy]
  same : filled.disk.contents? filled.host.folder source = some file.bytes

theorem Filled.contents? {world filled : World} {source copy : Path} {folder : Location} {name : Bytes}
    {file : File} (is : Filled world source copy folder name file filled) :
    filled.disk.contents? filled.host.folder copy = some file.bytes := by
  rw [is.stands]
  exact contents?_eq_some_iff.mpr ⟨_, _, is.made.find_filled file true, rfl⟩

theorem fill_cases {world : World} {source copy : Path} {folder : Location} {name : Bytes}
    (made : Temporary.Made world source copy folder name) (events : List Event) :
    (∃ fault, fill source copy
      (world.moved (world.disk.put (folder ++ [name]) (.file Temporary.emptyFile)) events) =
        (.error (.file source fault),
          world.moved (world.disk.put (folder ++ [name]) (.file Temporary.emptyFile)) events)) ∨
    ∃ file : File,
      (world.disk.put (folder ++ [name]) (.file file)).contents? world.host.folder source = some file.bytes ∧
      fill source copy (world.moved (world.disk.put (folder ++ [name]) (.file Temporary.emptyFile)) events) =
        (.ok (), world.moved (world.disk.put (folder ++ [name]) (.file file)) events) := by
  cases found : (world.disk.put (folder ++ [name]) (.file Temporary.emptyFile)).entryAt world.host.folder
      source with
  | error fault =>
      refine Or.inl ⟨fault, ?_⟩
      simp [fill, Step.bind_apply, found]
  | ok entry =>
      cases entry with
      | folder => exact Or.inl ⟨.notRegular, by simp [fill, Step.bind_apply, found]⟩
      | link target => exact Or.inl ⟨.notRegular, by simp [fill, Step.bind_apply, found]⟩
      | device device => exact Or.inl ⟨.notRegular, by simp [fill, Step.bind_apply, found]⟩
      | file file =>
          have given : (world.disk.put (folder ++ [name]) (.file Temporary.emptyFile)).contents?
              world.host.folder source = some file.bytes := by
            simp [Disk.contents?, found]
          have same := contents?_after_leaf (keptOff_between_puts world.disk (folder ++ [name]) _ _)
            (get?_put_self world.disk _ (.file file) (by simp)) rfl
            (get?_put_self world.disk _ (.file Temporary.emptyFile) (by simp)) given
          have written := write_occupied (made.find_filled Temporary.emptyFile true) file
          rw [put_put, Temporary.emptyFile_executable, Bool.false_or] at written
          refine Or.inr ⟨file, by simpa using same, ?_⟩
          simp [fill, Step.bind_apply, found, Step.change_apply, written]

theorem useIn_cases {α : Type} (into source : Path) (user : Text) (ownership : Ownership)
    (use : Path → Step α) (world : World) :
    (∃ fault, useIn into source user ownership use world = (.error (.file into fault), world)) ∨
    (∃ fault copy folder name, Temporary.Made world source copy folder name ∧
      (∃ number, name = nameStart ++ serial number ++ nameEnding) ∧
      useIn into source user ownership use world =
        (.error (.file source fault), world.moved world.disk [.made copy])) ∨
    ∃ copy folder name file filled, Filled world source copy folder name file filled ∧
      copy = Temporary.pathIn world into name ∧
      useIn into source user ownership use world =
        Step.thenTidy (do handOver ownership copy user; use copy) (Temporary.remove copy) filled := by
  unfold useIn
  rcases Temporary.make_cases into into source nameStart nameEnding (by decide)
    (by decide) (by decide) world with ⟨fault, refused⟩ | ⟨copy, folder, name, made, shape, placed, done⟩
  · exact Or.inl ⟨fault, by rw [Step.bind_of_error refused]⟩
  · rw [Step.bind_of_ok done, Step.thenTidy_apply]
    rcases fill_cases made [.made copy] with ⟨fault, failed⟩ | ⟨file, same, filled⟩
    · refine Or.inr (Or.inl ⟨fault, copy, folder, name, made, shape, ?_⟩)
      rw [Step.bind_of_error failed, Temporary.remove_filled made]
    · refine Or.inr (Or.inr ⟨copy, folder, name, file, _, ⟨made, shape, rfl, same⟩, placed, ?_⟩)
      rw [Step.bind_of_ok filled, Step.thenTidy_apply]

theorem use_apply {α : Type} (source : Path) (user : Text) (ownership : Ownership) (use_ : Path → Step α)
    (world : World) :
    use source user ownership use_ world = useIn world.temporaryFolder source user ownership use_ world :=
  Step.bind_of_ok (Step.look_apply _ _) _

theorem handOver_apply (ownership : Ownership) (path : Path) (user : Text) (world : World) :
    handOver ownership path user world =
      let taken := ownership path user (world.moved world.disk [.ownerChanged path user (world.read? path)])
      (taken.1, world.moved taken.2.disk
        [.ownerChanged path user (world.read? path), .lent world.disk taken.2.disk]) := by
  simp only [handOver, Step.bind_apply, Step.look_apply, Step.record_apply, Step.byOthers_apply,
    World.moved_disk, World.moved_moved]
  rfl

def handing (copy : Path) (user : Text) (file : File) (filled owned : World) : List Event :=
  [.made copy, .ownerChanged copy user (some file.bytes), .lent filled.disk owned.disk]

theorem Filled.handed {world filled owned : World} {source copy : Path} {folder : Location} {name : Bytes} {user : Text}
    {file : File} {ownership : Ownership} {answer : Except Failure Unit}
    (is : Filled world source copy folder name file filled)
    (handed : handOver ownership copy user filled = (answer, owned)) :
    owned = world.moved owned.disk (handing copy user file filled owned) ∧
    ∃ asked, asked.disk = filled.disk ∧ answer = (ownership copy user asked).1 ∧
      owned.disk = (ownership copy user asked).2.disk := by
  have read : filled.read? copy = some file.bytes := by
    rw [World.read?, World.read, read_of_contents? is.contents?]
    rfl
  rw [handOver_apply, read, Prod.mk.injEq] at handed
  obtain ⟨rfl, rfl⟩ := handed
  refine ⟨?_, filled.moved filled.disk [.ownerChanged copy user (some file.bytes)], rfl, rfl, rfl⟩
  rw [is.stands, World.moved_moved]
  rfl

theorem Filled.kept {world filled : World} {source copy : Path} {folder : Location} {name : Bytes} {file : File}
    (is : Filled world source copy folder name file filled) (location : Location) (entry : Entry)
    (found : world.disk.get? location = some entry) : filled.disk.get? location = some entry := by
  have other : location ≠ folder ++ [name] := by
    rintro rfl
    rw [is.made.absent] at found
    cases found
  rw [is.stands, World.moved_disk, get?_put_of_ne _ _ _ _ other, found]

end ScopedCopy

end PipDriver
