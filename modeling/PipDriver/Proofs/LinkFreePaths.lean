import PipDriver.Proofs.LinkFreeWalks

/-!
What a path names on a disk without links: one location, its spot. There can be a file at the path when the path
is fit for one and the locations on the way, its ways, are folders.
-/

namespace PipDriver

open Bytes (dot)

open Disk

def Disk.bytesAt (disk : Disk) (location : Location) : Option ByteArray :=
  match disk.get? location with
  | some (.file file) => some file.bytes
  | _ => none

theorem Disk.bytesAt_eq_some_iff {disk : Disk} {location : Location} {bytes : ByteArray} :
    disk.bytesAt location = some bytes ↔
      ∃ file : File, disk.get? location = some (.file file) ∧ file.bytes = bytes := by
  unfold bytesAt
  split
  · rename_i file found
    simp [found]
  · rename_i other
    constructor
    · intro impossible
      cases impossible
    · rintro ⟨file, found, -⟩
      exact (other file found).elim

theorem Disk.bytesAt_congr {disk other : Disk} {location : Location}
    (same : other.get? location = disk.get? location) : other.bytesAt location = disk.bytesAt location := by
  simp [bytesAt, same]

namespace Path

/-- Where a path leads, as long as no link is on the way. -/
def spot (base : Location) (path : Path) : Location := reach (startOf base path) path.route.names

def ways (base : Location) (path : Path) : List Location :=
  stops (startOf base path) path.route.names.dropLast

structure Fit (path : Path) : Prop where
  usable : pathFault? path = none
  unclosed : path.route.closed = false
  last : ∃ last, path.route.names.getLast? = some last ∧ Plain last
  short : ∀ name ∈ path.route.names, ¬longestName < name.length

variable {path : Path} {disk : Disk} {base : Location}

theorem Fit.split (fit : path.Fit) (base : Location) : ∃ front last, path.route.names = front ++ [last] ∧ Plain last ∧
    path.ways base = stops (startOf base path) front ∧
    path.spot base = reach (startOf base path) front ++ [last] := by
  obtain ⟨last, named, plain⟩ := fit.last
  obtain ⟨front, same⟩ := List.getLast?_eq_some_iff.mp named
  refine ⟨front, last, same, plain, by simp [ways, same], ?_⟩
  rw [spot, same, reach_append, reach_cons _ _ plain.notDot plain.notDots, reach_nil]

theorem Fit.clear_front (fit : path.Fit) (folders : ∀ way ∈ path.ways base, disk.get? way = some .folder) :
    Clear disk (startOf base path) path.route.names.dropLast where
  folders := folders
  short := fun name member => fit.short name (List.dropLast_subset _ member)

theorem Fit.walk_eq (fit : path.Fit) (folders : ∀ way ∈ path.ways base, disk.get? way = some .folder)
    (followLast : Bool) : ∃ here last, Plain last ∧ path.spot base = here ++ [last] ∧
      disk.find base path followLast = disk.walk followLast mostLinks here [last] false := by
  obtain ⟨front, last, same, plain, ways, spot⟩ := fit.split base
  refine ⟨_, last, plain, spot, ?_⟩
  have clear := fit.clear_front folders
  rw [same, List.dropLast_concat] at clear
  rw [find_eq_walk fit.usable, same, walk_clear clear, fit.unclosed]

theorem Fit.find_leaf (fit : path.Fit) (folders : ∀ way ∈ path.ways base, disk.get? way = some .folder)
    {entry : Entry} (there : disk.get? (path.spot base) = some entry) (leaf : entry.isLeaf = true)
    (followLast : Bool) : disk.find base path followLast = .ok (.occupied (path.spot base) entry) := by
  obtain ⟨here, last, plain, spot, course⟩ := fit.walk_eq folders followLast
  rw [spot] at there ⊢
  rw [course, walk_leaf _ _ plain _ _ there leaf]
  rfl

theorem Fit.find_free (fit : path.Fit) (folders : ∀ way ∈ path.ways base, disk.get? way = some .folder)
    (absent : disk.get? (path.spot base) = none) (followLast : Bool) : ∃ here last,
      path.spot base = here ++ [last] ∧ disk.find base path followLast = .ok (.vacant here last false) := by
  obtain ⟨here, last, plain, spot, course⟩ := fit.walk_eq folders followLast
  rw [spot] at absent
  exact ⟨here, last, spot, by rw [course, walk_none _ _ plain _ _ absent, if_pos rfl]⟩

theorem fit_of_last {front : List Bytes} {last : Bytes} (usable : pathFault? path = none)
    (unclosed : path.route.closed = false) (same : path.route.names = front ++ [last])
    (clear : Clear disk (startOf base path) front) (plain : Plain last) :
    path.Fit ∧ (∀ way ∈ path.ways base, disk.get? way = some .folder) ∧
      path.spot base = reach (startOf base path) front ++ [last] := by
  refine ⟨⟨usable, unclosed, ⟨last, by simp [same], plain⟩, ?_⟩, ?_, ?_⟩
  · intro name member
    rw [same] at member
    rcases List.mem_append.mp member with early | late
    · exact clear.short name early
    · exact List.mem_singleton.mp late ▸ plain.short
  · simpa [ways, same] using clear.folders
  · rw [spot, same, reach_append, reach_cons _ _ plain.notDot plain.notDots, reach_nil]

variable {location : Location} {followLast : Bool} (linkFree : LinkFree disk)
include linkFree

theorem fit_of_find {entry : Entry} (proper : entry ≠ .folder)
    (found : disk.find base path followLast = .ok (.occupied location entry)) :
    path.Fit ∧ (∀ way ∈ path.ways base, disk.get? way = some .folder) ∧ location = path.spot base ∧
      disk.get? location = some entry ∧ entry.isLeaf = true := by
  have usable := usable_of_find found
  rw [find_eq_walk usable] at found
  rcases ends_of_walk linkFree found with ⟨-, same⟩ | ⟨front, last, named, clear, plain, free | taken⟩
  · injection same with _ kind
    exact (proper kind).elim
  · cases free.2
  · obtain ⟨there, held, leaf, unclosed, same⟩ := taken
    obtain ⟨fit, folders, spot⟩ := fit_of_last usable unclosed named clear plain
    injection same with place kind
    subst place kind
    exact ⟨fit, folders, spot.symm, held, leaf⟩

theorem contents?_iff {bytes : ByteArray} : disk.contents? base path = some bytes ↔
    path.Fit ∧ (∀ way ∈ path.ways base, disk.get? way = some .folder) ∧
      disk.bytesAt (path.spot base) = some bytes := by
  rw [contents?_eq_some_iff]
  constructor
  · rintro ⟨location, file, found, same⟩
    obtain ⟨fit, folders, rfl, held, -⟩ := fit_of_find linkFree (by simp) found
    exact ⟨fit, folders, bytesAt_eq_some_iff.mpr ⟨file, held, same⟩⟩
  · rintro ⟨fit, folders, given⟩
    obtain ⟨file, held, same⟩ := bytesAt_eq_some_iff.mp given
    exact ⟨_, file, fit.find_leaf folders held rfl true, same⟩

theorem fit_of_moveTarget (allowed : disk.moveTarget base path = .ok location) :
    path.Fit ∧ (∀ way ∈ path.ways base, disk.get? way = some .folder) ∧
      disk.get? (path.spot base) ≠ some .folder ∧ location = path.spot base := by
  obtain ⟨here, last, rfl, ⟨place, found, stops⟩, unclosed, named⟩ := spot_of_moveTarget allowed
  cases place with
  | occupied there entry =>
      obtain ⟨rfl, proper⟩ := stops
      obtain ⟨fit, folders, same, held, -⟩ := fit_of_find linkFree proper found
      refine ⟨fit, folders, ?_, same⟩
      rw [← same, held]
      simpa using proper
  | vacant folder name asked =>
      obtain ⟨rfl, rfl⟩ := stops
      obtain ⟨front, split, rfl, clear, plain, absent⟩ := front_of_find_vacant linkFree found
      obtain ⟨fit, folders, spot⟩ := fit_of_last (usable_of_find found) unclosed split clear plain
      refine ⟨fit, folders, ?_, spot.symm⟩
      rw [spot, absent]
      simp

theorem Fit.moveTarget_eq (fit : path.Fit) (folders : ∀ way ∈ path.ways base, disk.get? way = some .folder)
    (proper : disk.get? (path.spot base) ≠ some .folder) : disk.moveTarget base path = .ok (path.spot base) := by
  obtain ⟨front, last, same, plain, -, -⟩ := fit.split base
  have given : 0 ∉ path.bytes := by
    intro member
    have faulty := fit.usable
    simp [pathFault?, member] at faulty
  have dots : endsInDots path = false := by
    have named : (Route.ofBytes path.bytes).names.getLast? = some last := by
      simp [show (Route.ofBytes path.bytes).names = front ++ [last] from same]
    simp [endsInDots, named, plain.notDot, plain.notDots]
  have unclosed : (Route.ofBytes path.bytes).closed = false := fit.unclosed
  unfold moveTarget
  rw [if_neg given, openEnd_eq_self fit.unclosed]
  cases held : disk.get? (path.spot base) with
  | none =>
      obtain ⟨here, name, split, found⟩ := fit.find_free folders held false
      rw [found]
      simp [dots, unclosed, split]
  | some entry =>
      rcases entry.folder_or_link_or_leaf with rfl | ⟨target, rfl⟩ | leaf
      · exact (proper held).elim
      · exact (linkFree _ _ held).elim
      · rw [fit.find_leaf folders held leaf false]
        cases entry <;> simp_all [Entry.isLeaf]

theorem moveTarget_iff : disk.moveTarget base path = .ok location ↔
    path.Fit ∧ (∀ way ∈ path.ways base, disk.get? way = some .folder) ∧
      disk.get? (path.spot base) ≠ some .folder ∧ location = path.spot base := by
  constructor
  · exact fit_of_moveTarget linkFree
  · rintro ⟨fit, folders, proper, rfl⟩
    exact fit.moveTarget_eq linkFree folders proper

theorem isFolder_iff : disk.isFolder base path = true ↔
    pathFault? path = none ∧ Clear disk (startOf base path) path.route.names := by
  constructor
  · intro is
    unfold isFolder at is
    split at is
    · rename_i there
      obtain ⟨location, found⟩ := entryAt_eq_ok_iff.mp there
      exact ⟨usable_of_find found, (clear_of_find_folder linkFree found).1⟩
    · cases is
  · rintro ⟨usable, clear⟩
    have found : disk.find base path = .ok (.occupied (reach (startOf base path) path.route.names) .folder) := by
      rw [find_eq_walk usable, ← List.append_nil path.route.names, walk_clear clear, walk_nil, List.append_nil]
    simp [isFolder, entryAt_eq_ok_iff.mpr ⟨_, found⟩]

variable (trimmed : openEnd path = path)
include trimmed

theorem makeFolder_made {made : Disk} (done : disk.makeFolder base path = .ok made) :
    ∃ here last, stops (startOf base path) path.route.names =
        stops (startOf base path) path.route.names.dropLast ++ [here ++ [last]] ∧
      disk.get? (here ++ [last]) = none ∧ made = disk.put (here ++ [last]) .folder ∧
      Clear made (startOf base path) path.route.names := by
  obtain ⟨here, last, asked, found, rfl⟩ := find_of_makeFolder done
  rw [trimmed] at found
  obtain ⟨front, split, rfl, clear, plain, absent⟩ := front_of_find_vacant linkFree found
  refine ⟨_, last, ?_, absent, rfl, ?_⟩
  · rw [split, List.dropLast_concat, stops_append, stops_cons _ _ plain.notDot plain.notDots, stops_nil]
  · rw [split]
    refine Clear.append ⟨?_, clear.short⟩ (Clear.plain plain (get?_put_self _ _ _ (by simp)) (clear_nil _ _))
    intro stop member
    have different : stop ≠ reach (startOf base path) front ++ [last] := by
      rintro rfl
      simp [clear.folders _ member] at absent
    rw [get?_put_of_ne _ _ _ _ different]
    exact clear.folders stop member

theorem makeFolder_refused {fault : Fault} (usable : pathFault? path = none)
    (firm : Firm disk (stops (startOf base path) path.route.names))
    (short : ∀ name ∈ path.route.names, ¬longestName < name.length)
    (refused : disk.makeFolder base path = .error fault) :
    fault = .missing ∨ (fault = .taken ∧ Clear disk (startOf base path) path.route.names) := by
  unfold makeFolder at refused
  rw [trimmed, find_eq_walk usable] at refused
  rcases walk_firm firm short with ⟨place, arrived⟩ | missing
  · rw [arrived] at refused
    rcases ends_of_walk linkFree arrived with ⟨clear, rfl⟩ | ⟨front, last, split, clear, plain, free | taken⟩
    · exact Or.inr ⟨(Except.error.inj refused).symm, clear⟩
    · obtain ⟨-, rfl⟩ := free
      cases refused
    · obtain ⟨entry, held, leaf, -, -⟩ := taken
      have stop : reach (startOf base path) front ++ [last] ∈ stops (startOf base path) path.route.names := by
        rw [split, stops_append, stops_cons _ _ plain.notDot plain.notDots]
        simp
      rcases firm _ stop with absent | folder
      · simp [absent] at held
      · rw [folder, Option.some.injEq] at held
        subst held
        cases leaf
  · rw [missing] at refused
    exact Or.inl (Except.error.inj refused).symm

omit linkFree in
theorem find_of_makeFolder_missing (missing : disk.makeFolder base path = .error .missing) :
    disk.find base path false = .error .missing := by
  unfold makeFolder at missing
  rw [trimmed] at missing
  split at missing
  · cases missing
  · cases missing
  · rename_i found
    rw [found, Except.error.inj missing]

/-- A folder can only be missing for want of one above it. -/
theorem makeFolder_ne_missing (usable : pathFault? path = none)
    (short : ∀ name ∈ path.route.names, ¬longestName < name.length)
    (above : ∀ stop ∈ stops (startOf base path) (core path.route.names).dropLast, disk.get? stop = some .folder)
    (ends : core path.route.names = [] ∨ path.route.names.getLast? ≠ some [dot]) :
    disk.makeFolder base path ≠ .error .missing := by
  intro missing
  have lost := find_of_makeFolder_missing trimmed missing
  rw [find_eq_walk usable] at lost
  by_cases home : core path.route.names = []
  · have clear : Clear disk (startOf base path) path.route.names := by
      refine ⟨fun stop member => ?_, short⟩
      rw [← stops_core, home] at member
      cases member
    rw [← List.append_nil path.route.names, walk_clear clear, walk_nil] at lost
    cases lost
  · obtain ⟨front, last, split⟩ := (List.eq_nil_or_concat path.route.names).resolve_left
      fun empty => home (by simp [empty, core])
    rw [List.concat_eq_append] at split
    have notDot : last ≠ [dot] := by
      rintro rfl
      exact (ends.resolve_left home) (by simp [split])
    have whole : core path.route.names = core front ++ [last] := by simp [core, split, notDot]
    have clear : Clear disk (startOf base path) front := by
      refine ⟨fun stop member => above stop ?_, fun name member => short name ?_⟩
      · rwa [whole, List.dropLast_concat, stops_core]
      · rw [split]
        exact List.mem_append_left _ member
    rw [split, walk_clear clear] at lost
    exact walk_last_ne_missing linkFree (short last (by simp [split])) lost

end Path

end PipDriver
