import PipDriver.Proofs.Temporaries

/-!
Putting a copy in its place in company: its bytes go to a temporary file that nobody else touches, which then takes
the spot of the copy in one step.
-/

namespace PipDriver.Company

open Disk

variable {company : Company} {relative temporary above : Path} {bytes : ByteArray} {location : Location}
  {world met : World} {file : File} {β : Type}

structure Owns (company : Company) (relative temporary : Path) (location : Location) (world : World) : Prop where
  fit : temporary.Fit
  spot : location = temporary.spot company.base
  ways : ∀ way ∈ temporary.ways company.base, world.disk.get? way = some .folder
  loose : company.Loose location
  roomy : ∀ number < 1000000, pathFault? (company.temporary relative number) = none

theorem Owns.later (owns : company.Owns relative temporary location world)
    (onward : company.Onward world.disk met.disk) : company.Owns relative temporary location met :=
  { owns with ways := fun way on => onward.folders way (owns.ways way on) }

theorem Owns.find (owns : company.Owns relative temporary location world)
    (held : world.disk.get? location = some (.file file)) (followLast : Bool) :
    world.disk.find company.base temporary followLast = .ok (.occupied location (.file file)) := by
  rw [owns.spot] at held ⊢
  exact owns.fit.find_leaf owns.ways held rfl followLast

theorem temporary_last (found : (company.copy relative).parent? = some above) {number : Nat}
    (fit : (company.temporary relative number).Fit) :
    ((company.temporary relative number).spot company.base).getLast? = some (temporaryName number) := by
  obtain ⟨front, last, split, -, -, spot⟩ := fit.split company.base
  rw [(temporary_route found number).1] at split
  obtain ⟨-, rfl⟩ := List.append_singleton_inj.mp split
  rw [spot, List.getLast?_concat]

section Making

variable {fault : Fault} {disk : Disk}
  (standing : company.Standing met)
  (named : Temporary.nameFor? met (company.copy relative) AtomicFile.nameStart AtomicFile.nameEnding =
    some (temporaryName met.host.firstSerial))
include standing named

theorem makeTemporary_of_error
    (tried : met.disk.makeFile company.base (company.temporary relative met.host.firstSerial) = .error fault) :
    Strand.makeTemporary (company.copy relative) met =
      (.error (.file (company.copy relative) (.unplaced fault (company.temporary relative met.host.firstSerial))), met) := by
  unfold Strand.makeTemporary
  rw [Step.bind_of_ok (Step.look_apply _ _), Temporary.make, named]
  simp [temporary_eq standing.hosted, standing.base_eq, tried]

theorem makeTemporary_of_ok
    (tried : met.disk.makeFile company.base (company.temporary relative met.host.firstSerial) = .ok disk) :
    Strand.makeTemporary (company.copy relative) met =
      (.ok (company.temporary relative met.host.firstSerial),
        met.moved disk [.made (company.temporary relative met.host.firstSerial)]) := by
  unfold Strand.makeTemporary
  rw [Step.bind_of_ok (Step.look_apply _ _), Temporary.make, named]
  simp [temporary_eq standing.hosted, standing.base_eq, tried, World.moved]

end Making

section Settled

variable (settled : company.Settled)
include settled

/-- A temporary file that could be made is one's own: nobody asks for its name, and nothing has it. -/
theorem owns_of_makeFile (standing : company.Standing met) (drawn : company.Drawn met)
    (found : (company.copy relative).parent? = some above) {made : Disk}
    (done : met.disk.makeFile company.base (company.temporary relative met.host.firstSerial) = .ok made) :
    ∃ location, made = met.disk.put location (.file Temporary.emptyFile) ∧ met.disk.get? location = none ∧
      company.Owns relative (company.temporary relative met.host.firstSerial) location met := by
  obtain ⟨folder, name, free, rfl⟩ := find_of_makeFile done
  have usable := usable_of_find free
  obtain ⟨front, split, rfl, clear, plain, absent⟩ := front_of_find_vacant (standing.linkFree settled) free
  obtain ⟨fit, ways, spot⟩ := Path.fit_of_last usable (temporary_route found _).2.2 split clear plain
  refine ⟨_, rfl, absent, fit, spot.symm, ways, ⟨standing.sound.absent absent, _, ?_, drawn.apart⟩, ?_⟩
  · rw [← spot]
    exact temporary_last found fit
  · exact fun number few => roomy_of_usable usable few

theorem Passable.makeFile_ok (passable : company.Passable relative) (standing : company.Standing met)
    (drawn : company.Drawn met) (found : (company.copy relative).parent? = some above)
    (laid : company.Laid above met) (fault : Fault) :
    met.disk.makeFile company.base (company.temporary relative met.host.firstSerial) ≠ .error fault := by
  have fit := passable.temporary_fit settled found drawn.few
  have ways := temporary_ways settled found standing laid met.host.firstSerial
  have absent := get?_of_isFresh drawn.fresh (temporary_last found fit)
  obtain ⟨here, last, -, free⟩ := fit.find_free ways absent false
  simp [makeFile, free]

/-- Once the folder of a copy is there, a new temporary file can be made in it, if there is room for its path. -/
theorem keeps_makeTemporary {good : World → β → Prop} {next : Path → Strand β} (asked : company.Asked relative)
    (found : (company.copy relative).parent? = some above) (laid : company.Laid above world)
    (made : ∀ temporary location after, company.Standing after → company.Onward world.disk after.disk →
      company.Owns relative temporary location after →
      after.disk.get? location = some (.file Temporary.emptyFile) →
      company.Keeps (company.Outcome relative good) (some location) after (next temporary)) :
    company.Keeps (company.Outcome relative good) none world
      (Strand.atom (Strand.makeTemporary (company.copy relative)) >>= next) := by
  refine keeps_atom fun met meets draws => ?_
  have standing := meets.standing
  have drawn := draws rfl
  have named : Temporary.nameFor? met (company.copy relative) AtomicFile.nameStart AtomicFile.nameEnding =
      some (temporaryName met.host.firstSerial) :=
    freshName?_eq drawn.fresh fun member => drawn.apart (asked.wants_of_copy member)
  cases tried : met.disk.makeFile company.base (company.temporary relative met.host.firstSerial) with
  | error fault =>
      have failed := makeTemporary_of_error standing named tried
      refine ⟨none, _, met, failed, rfl, allows_nothing standing.sound, keeps_ended (.failed standing ?_)⟩
      exact fun passable => passable.makeFile_ok settled standing drawn found (laid.later meets.onward) fault tried
  | ok disk =>
      have kept := makeTemporary_of_ok standing named tried
      obtain ⟨location, rfl, free, owns⟩ := owns_of_makeFile settled standing drawn found tried
      have allows : company.Allows none (some location) met.disk
          (met.disk.put location (.file Temporary.emptyFile)) := allows_make standing.sound owns.loose free
      refine ⟨some location, _, _, kept, rfl, allows, ?_⟩
      exact made _ location _ (standing.next rfl allows) (meets.onward.trans allows.onward)
        (owns.later allows.onward) (get?_put_self _ _ _ owns.loose.ne_nil)

inductive Placed (company : Company) (relative temporary : Path) (bytes : ByteArray) (location : Location) :
    Option Location → World → Except Failure Unit → Prop
  | done {after : World} (standing : company.Standing after)
      (copied : after.contents? (company.copy relative) = some bytes) :
      Placed company relative temporary bytes location none after (.ok ())
  | refused {after : World} {failure : Failure} {file : File} (blocked : ¬company.Passable relative)
      (owns : company.Owns relative temporary location after)
      (held : after.disk.get? location = some (.file file)) :
      Placed company relative temporary bytes location (some location) after (.error failure)

omit settled in
/-- What can be moved to the spot of a copy, on a disk with no more than new folders on the way there, shows that the
copy could be stored from the start. -/
theorem passable_of_moveTarget {disk : Disk} {spot : Location} (linkFree : disk.LinkFree)
    (kept : ∀ location, company.start.disk.get? location = some .folder → disk.get? location = some .folder)
    (came : ∀ location, disk.get? location = some .folder →
      company.start.disk.get? location = none ∨ company.start.disk.get? location = some .folder)
    (roomy : ∀ number < 1000000, pathFault? (company.temporary relative number) = none)
    (allowed : disk.moveTarget company.base (company.copy relative) = .ok spot) :
    company.Passable relative ∧ (∀ way ∈ (company.copy relative).ways company.base, disk.get? way = some .folder) ∧
      disk.get? ((company.copy relative).spot company.base) ≠ some .folder ∧
      spot = (company.copy relative).spot company.base := by
  obtain ⟨fit, folders, proper, same⟩ := (Path.moveTarget_iff linkFree).mp allowed
  refine ⟨⟨fit, ?_, fun on => proper (folders _ on), fun folder => proper (kept _ folder), roomy⟩, folders, proper,
    same⟩
  exact fun way on => came way (folders way on)

theorem keeps_moveTo (fetchable : company.Fetchable relative bytes)
    (ready : ∀ way ∈ (company.copy relative).ways company.base, world.disk.get? way = some .folder)
    (owns : company.Owns relative temporary location world)
    (held : world.disk.get? location = some (.file file)) (filled : file.bytes = bytes) :
    company.Keeps (company.Placed relative temporary bytes location) (some location) world
      (Strand.atom (AtomicFile.moveTo temporary (company.copy relative))) := by
  refine keeps_atom_last fun met meets => ?_
  have standing := meets.standing
  have here : met.disk.get? location = some (.file file) := (meets.held location rfl).trans held
  have source := (owns.later meets.onward).find here false
  cases allowed : met.disk.moveTarget company.base (company.copy relative) with
  | error fault =>
      have refused : AtomicFile.moveTo temporary (company.copy relative) met =
          (.error (.file (company.copy relative) fault), met) := by
        simp [AtomicFile.moveTo, Step.change_apply, standing.base_eq, source, move, here, allowed]
      have still : company.Allows (some location) (some location) met.disk met.disk := by
        refine allows_still standing.sound ?_
        rintro _ ⟨⟩
        exact ⟨owns.loose, by simp [here]⟩
      refine ⟨some location, _, met, refused, rfl, still, .refused (fun passable => ?_) (owns.later meets.onward) here⟩
      have free := (Path.moveTarget_iff (standing.linkFree settled)).mpr ⟨passable.fit,
        fun way on => meets.onward.folders way (ready way on),
        passable.proper_now settled fetchable standing.sound, rfl⟩
      rw [free] at allowed
      cases allowed
  | ok spot =>
      obtain ⟨passable, folders, proper, rfl⟩ := passable_of_moveTarget (standing.linkFree settled)
        (fun _ => standing.sound.folder) (fun _ => standing.sound.firm) owns.roomy allowed
      have moved : AtomicFile.moveTo temporary (company.copy relative) met =
          (.ok (), met.moved ((met.disk.erase location).put ((company.copy relative).spot company.base) (.file file))
            []) := by
        simp [AtomicFile.moveTo, Step.change_apply, standing.base_eq, source, move, here, allowed]
      subst filled
      have allows := allows_move standing.sound owns.loose here settled fetchable passable proper
      have next : company.Standing (met.moved ((met.disk.erase location).put
          ((company.copy relative).spot company.base) (.file file)) []) := standing.next rfl allows
      refine ⟨none, _, _, moved, rfl, allows, .done next ?_⟩
      obtain ⟨name, last, -⟩ := fetchable.spot_wanted settled
      have below : (company.copy relative).spot company.base ≠ [] := by
        intro empty
        simp [empty] at last
      rw [next.contents?_eq, Path.contents?_iff (next.linkFree settled)]
      refine ⟨passable.fit, fun way on => allows.onward.folders way (folders way on), ?_⟩
      simp [bytesAt, get?_put_self _ _ _ below]

omit settled in
theorem Owns.written {old : File} (owns : company.Owns relative temporary location world)
    (held : world.disk.get? location = some (.file old)) (plain : old.executable = false)
    (meets : company.Meets (some location) world met) (part : ByteArray) : ∃ after,
      (Step.change temporary fun disk base => disk.write base temporary { bytes := part }) met = (.ok (), after) ∧
      after.host = met.host ∧ company.Allows (some location) (some location) met.disk after.disk ∧
      company.Onward world.disk after.disk ∧ after.disk.get? location = some (.file { bytes := part }) := by
  have here : met.disk.get? location = some (.file old) := (meets.held location rfl).trans held
  have allows : company.Allows (some location) (some location) met.disk
      (met.disk.put location (.file { bytes := part })) := allows_fill meets.standing.sound owns.loose here
  refine ⟨met.moved (met.disk.put location (.file { bytes := part })) [], ?_, rfl, allows,
    meets.onward.trans allows.onward, get?_put_self _ _ _ owns.loose.ne_nil⟩
  rw [Step.change_apply, meets.standing.base_eq, write_occupied ((owns.later meets.onward).find here true), plain]
  rfl

omit settled in
/-- However much of it is written, a temporary file is nobody else's business. -/
theorem keeps_fill {old : File} (left : Nat) (owns : company.Owns relative temporary location world)
    (held : world.disk.get? location = some (.file old)) (plain : old.executable = false) :
    company.Keeps (fun taken after answer => taken = some location ∧ answer = .ok () ∧
      company.Onward world.disk after.disk ∧ after.disk.get? location = some (.file { bytes })) (some location) world
      (Strand.fill temporary bytes left) := by
  induction left generalizing world old with
  | zero =>
      refine keeps_atom_last fun met meets => ?_
      obtain ⟨after, same, host, allows, onward, filled⟩ := owns.written held plain meets bytes
      exact ⟨some location, _, after, same, host, allows, rfl, rfl, onward, filled⟩
  | succ left ih =>
      refine keeps_atom fun met meets _ => ?_
      obtain ⟨after, same, host, allows, onward, partly⟩ := owns.written held plain meets _
      refine ⟨some location, _, after, same, host, allows, (ih (owns.later onward) partly rfl).mono ?_⟩
      rintro taken later answer ⟨holding, done, further, filled⟩
      exact ⟨holding, done, onward.trans further, filled⟩

theorem keeps_replace (fetchable : company.Fetchable relative bytes)
    (ready : ∀ way ∈ (company.copy relative).ways company.base, world.disk.get? way = some .folder)
    (owns : company.Owns relative temporary location world)
    (held : world.disk.get? location = some (.file Temporary.emptyFile)) :
    company.Keeps (company.Outcome relative fun after _ => after.contents? (company.copy relative) = some bytes)
      (some location) world (Strand.replace (company.copy relative) temporary bytes) := by
  have placed : company.Keeps (company.Placed relative temporary bytes location) (some location) world (do
      Strand.fill temporary bytes bytes.size
      Strand.atom (AtomicFile.moveTo temporary (company.copy relative))) := by
    refine (keeps_fill bytes.size owns held rfl).bind ?_ ?_
    · rintro taken after failure ⟨-, impossible, -⟩
      cases impossible
    · rintro taken after value ⟨rfl, -, onward, filled⟩
      exact keeps_moveTo settled fetchable (fun way on => onward.folders way (ready way on)) (owns.later onward)
        filled rfl
  refine placed.orTidy ?_ ?_
  · intro taken after value done
    cases done with
    | done standing copied => exact .done standing copied
  · intro taken after failure failed met meets
    cases failed with
    | @refused _ _ file blocked owns there =>
        have standing := meets.standing
        have here : met.disk.get? location = some (.file file) := (meets.held location rfl).trans there
        have removed : Temporary.remove temporary met = met.moved (met.disk.erase location) [] := by
          simp [Temporary.remove, removeFile, standing.base_eq, (owns.later meets.onward).find here false, World.moved]
        have allows := allows_drop standing.sound owns.loose here
        rw [removed]
        exact ⟨none, rfl, allows, .failed (standing.next rfl allows) blocked⟩

/-- A copy is written to its place whatever the others do, unless it cannot be stored at all. -/
theorem keeps_write (fetchable : company.Fetchable relative bytes) (standing : company.Standing world) :
    company.Keeps (company.Outcome relative fun after _ => after.contents? (company.copy relative) = some bytes)
      none world (Strand.write (company.copy relative) bytes) := by
  cases found : (company.copy relative).parent? with
  | none =>
      obtain ⟨⟨last, named, plain, -⟩, -⟩ := fetchable.names settled
      have among : last ∈ core (company.copy relative).route.names :=
        List.mem_filter.mpr ⟨List.mem_of_getLast? named, by simpa using plain.notDot⟩
      rw [Path.core_of_no_parent found] at among
      cases among
  | some above =>
      have prepared : company.Keeps (company.Outcome relative fun after _ => company.Laid above after) none world
          (Strand.prepareFolder (company.copy relative)) := by
        simp only [Strand.prepareFolder, found]
        exact keeps_makeFolders settled fetchable above (leading_of_parent found) standing
      refine prepared.outcome_bind fun after _ standing laid => ?_
      refine keeps_makeTemporary settled fetchable.asked found laid ?_
      intro temporary location after standing onward owns held
      refine keeps_replace settled fetchable (fun way on => ?_) owns held
      rw [ways_eq settled fetchable] at on
      exact Laid.folders_above found (laid.later onward) way on

end Settled

end PipDriver.Company
