import PipDriver.Proofs.WalkDependence

/-!
What paths name on disks that differ. A path keeps naming what it names while a disk only gains entries. Where
a file takes a spot, every path still names what it named, or names that file, or has lost its way.
-/

namespace PipDriver

def Path.route (path : Path) : Route := Route.ofBytes path.bytes

namespace Disk

def contents? (disk : Disk) (base : Location) (path : Path) : Option ByteArray :=
  match disk.entryAt base path with
  | .ok (.file file) => some file.bytes
  | _ => none

def holds (disk : Disk) (base : Location) (path : Path) : Bool :=
  match disk.find base path false with
  | .ok (.occupied _ _) => true
  | _ => false

/-- A folder is at a path, and not only a link to one. -/
def holdsFolder (disk : Disk) (base : Location) (path : Path) : Bool :=
  match disk.find base path false with
  | .ok (.occupied _ .folder) => true
  | _ => false

def IsSpot (disk : Disk) (base : Location) (path : Path) (folder : Location) (name : Bytes) : Prop :=
  ∃ place, disk.find base path false = .ok place ∧ StopsAt folder name place

def startOf (base : Location) (path : Path) : Location := if path.route.absolute then [] else base

section

variable {disk after : Disk} {base : Location} {path : Path}

theorem find_eq_walk (usable : pathFault? path = none) (followLast : Bool) :
    disk.find base path followLast =
      disk.walk followLast mostLinks (startOf base path) path.route.names path.route.closed := by
  simp only [find, usable]
  rfl

theorem usable_of_find {followLast : Bool} {place : Place}
    (found : disk.find base path followLast = .ok place) : pathFault? path = none := by
  cases faulty : pathFault? path with
  | none => rfl
  | some fault => simp [find, faulty] at found

theorem arrives_of_find {followLast : Bool} {place : Place}
    (found : disk.find base path followLast = .ok place) :
    Arrives disk followLast mostLinks (startOf base path) path.route.names path.route.closed place := by
  rw [find_eq_walk (usable_of_find found)] at found
  exact arrives_of_walk found

theorem find_grow {followLast : Bool} {location : Location} {entry : Entry}
    (kept : ∀ location entry, disk.get? location = some entry → after.get? location = some entry)
    (found : disk.find base path followLast = .ok (.occupied location entry)) :
    after.find base path followLast = .ok (.occupied location entry) := by
  rw [find_eq_walk (usable_of_find found)]
  exact ((arrives_of_find found).grow kept).walk_eq

theorem entryAt_eq_ok_iff {entry : Entry} : disk.entryAt base path = .ok entry ↔
    ∃ location, disk.find base path = .ok (.occupied location entry) := by
  unfold entryAt
  constructor
  · intro found
    split at found
    · rename_i location there same
      simp only [Except.ok.injEq] at found
      exact ⟨location, by rw [same, found]⟩
    · simp at found
    · simp at found
  · rintro ⟨location, found⟩
    rw [found]

theorem contents?_eq_some_iff {bytes : ByteArray} : disk.contents? base path = some bytes ↔
    ∃ location file, disk.find base path = .ok (.occupied location (.file file)) ∧ file.bytes = bytes := by
  constructor
  · intro given
    unfold contents? at given
    split at given
    · rename_i file found
      obtain ⟨location, found⟩ := entryAt_eq_ok_iff.mp found
      exact ⟨location, file, found, Option.some.inj given⟩
    · simp at given
  · rintro ⟨location, file, found, rfl⟩
    simp [contents?, entryAt_eq_ok_iff.mpr ⟨location, found⟩]

theorem isFile_eq_isSome_contents? (disk : Disk) (base : Location) (path : Path) :
    disk.isFile base path = (disk.contents? base path).isSome := by
  unfold isFile contents?
  split <;> simp_all

theorem read_of_contents? {bytes : ByteArray} (given : disk.contents? base path = some bytes) :
    disk.read base path = .ok bytes := by
  obtain ⟨location, file, found, rfl⟩ := contents?_eq_some_iff.mp given
  simp [read, entryAt_eq_ok_iff.mpr ⟨location, found⟩]

theorem contents?_grow {bytes : ByteArray}
    (kept : ∀ location entry, disk.get? location = some entry → after.get? location = some entry)
    (given : disk.contents? base path = some bytes) : after.contents? base path = some bytes := by
  obtain ⟨location, file, found, same⟩ := contents?_eq_some_iff.mp given
  exact contents?_eq_some_iff.mpr ⟨location, file, find_grow kept found, same⟩

end

section Replaced

variable {disk after : Disk} {base folder : Location} {path : Path} {name : Bytes} {file : File}
  (kept : KeptOff disk after (folder ++ [name])) (there : after.get? (folder ++ [name]) = some (.file file))
include kept there

/-- With a file at a spot, a path names what it named, or the file, or it has lost its way. -/
theorem find_with_file {followLast : Bool} {location : Location} {entry : Entry}
    (found : disk.find base path followLast = .ok (.occupied location entry)) :
    after.find base path followLast = .ok (.occupied location entry) ∨
      after.find base path followLast = .ok (.occupied (folder ++ [name]) (.file file)) ∨
      after.find base path followLast = .error .notFolder := by
  rw [find_eq_walk (usable_of_find found)]
  rcases (arrives_of_find found).dichotomy folder name with
    steady | ⟨plain, left, rest, asked, course⟩
  · exact Or.inl (steady after (kept.keepsCourse_occupied _ _))
  · rw [course after followLast id kept]
    exact Or.inr (walk_at_leaf _ _ _ _ plain there rfl)

theorem contents?_with_file {bytes : ByteArray} (given : disk.contents? base path = some bytes) :
    after.contents? base path = some bytes ∨ after.contents? base path = some file.bytes ∨
      after.entryAt base path = .error .notFolder := by
  obtain ⟨location, other, found, same⟩ := contents?_eq_some_iff.mp given
  rcases find_with_file kept there found with steady | taken | lost
  · exact Or.inl (contents?_eq_some_iff.mpr ⟨_, _, steady, same⟩)
  · exact Or.inr (Or.inl (contents?_eq_some_iff.mpr ⟨_, _, taken, rfl⟩))
  · exact Or.inr (Or.inr (by simp [entryAt, lost]))

theorem IsSpot.find_with_file (spot : IsSpot disk base path folder name) (followLast : Bool) :
    after.find base path followLast = .ok (.occupied (folder ++ [name]) (.file file)) ∨
      after.find base path followLast = .error .notFolder := by
  obtain ⟨place, found, stops⟩ := spot
  obtain ⟨plain, left, rest, asked, course⟩ := (arrives_of_find found).comes_to stops
  rw [find_eq_walk (usable_of_find found), course after followLast (by simp) kept]
  exact walk_at_leaf _ _ _ _ plain there rfl

theorem IsSpot.contents?_with_file (spot : IsSpot disk base path folder name) :
    after.contents? base path = some file.bytes ∨ after.entryAt base path = .error .notFolder := by
  rcases spot.find_with_file kept there true with found | lost
  · exact Or.inl (contents?_eq_some_iff.mpr ⟨_, _, found, rfl⟩)
  · exact Or.inr (by simp [entryAt, lost])

end Replaced

section Final

variable {disk after : Disk} {base folder : Location} {path other : Path} {name : Bytes} {bytes old : ByteArray}

/-- Where a path names a spot and leads to a file from there, no walk goes on from the spot. -/
theorem IsSpot.no_way_on (spot : IsSpot disk base path folder name)
    (given : disk.contents? base path = some old) {mode asked : Bool} {left : Nat} {rest : List Bytes}
    {place : Place} (arrived : disk.walk mode left folder (name :: rest) asked = .ok place) :
    rest = [] ∧ asked = false := by
  obtain ⟨there, file, followed, -⟩ := contents?_eq_some_iff.mp given
  obtain ⟨stop, found, stops⟩ := spot
  have usable := usable_of_find found
  rw [find_eq_walk usable] at followed
  cases stop with
  | vacant here last closed =>
      obtain ⟨rfl, rfl⟩ := stops
      obtain ⟨plain, reach, further, closing, course⟩ := (arrives_of_find found).comes_to ⟨rfl, rfl⟩
      have absent := (arrives_of_find found).holds.1
      rw [course disk true (by simp) (KeptOff.refl _ _), walk_none _ _ plain _ _ absent] at followed
      split at followed <;> simp at followed
  | occupied location entry =>
      obtain ⟨rfl, proper⟩ := stops
      obtain ⟨reach, course⟩ := (arrives_of_find found).last_step rfl proper
      rw [course true] at followed
      by_cases last : rest = [] ∧ asked = false
      · exact last
      · have onward : rest ≠ [] ∨ asked = true := by
          rwa [Decidable.not_and_iff_or_not, Bool.not_eq_false] at last
        exact ((arrives_of_walk followed).no_way_on rfl (by simp) mode left onward place arrived).elim

variable {file : File} (kept : KeptOff disk after (folder ++ [name]))
  (there : after.get? (folder ++ [name]) = some (.file file))
include kept there

theorem IsSpot.contents?_replaced (spot : IsSpot disk base path folder name)
    (given : disk.contents? base path = some old) : after.contents? base path = some file.bytes := by
  obtain ⟨stop, found, stops⟩ := id spot
  obtain ⟨plain, left, rest, asked, course⟩ := (arrives_of_find found).comes_to stops
  have short := course disk false (by simp) (KeptOff.refl _ _)
  rw [← find_eq_walk (usable_of_find found), found] at short
  obtain ⟨rfl, rfl⟩ := spot.no_way_on given short.symm
  refine contents?_eq_some_iff.mpr ⟨folder ++ [name], file, ?_, rfl⟩
  rw [find_eq_walk (usable_of_find found), course after true (by simp) kept,
    walk_leaf _ _ plain _ _ there rfl]
  rfl

theorem contents?_of_no_way_on
    (ends : ∀ left rest asked place, Plain name → disk.walk true left folder (name :: rest) asked = .ok place →
      rest = [] ∧ asked = false)
    (given : disk.contents? base path = some bytes) :
    after.contents? base path = some bytes ∨ after.contents? base path = some file.bytes := by
  obtain ⟨location, held, found, same⟩ := contents?_eq_some_iff.mp given
  have usable := usable_of_find found
  rcases (arrives_of_find found).dichotomy folder name with
    steady | ⟨plain, left, rest, asked, course⟩
  · refine Or.inl (contents?_eq_some_iff.mpr ⟨location, held, ?_, same⟩)
    rw [find_eq_walk usable, steady after (kept.keepsCourse_occupied _ _)]
  · have short := course disk true id (KeptOff.refl _ _)
    rw [← find_eq_walk usable, found] at short
    obtain ⟨rfl, rfl⟩ := ends left rest asked _ plain short.symm
    refine Or.inr (contents?_eq_some_iff.mpr ⟨folder ++ [name], file, ?_, rfl⟩)
    rw [find_eq_walk usable, course after true id kept, walk_leaf _ _ plain _ _ there rfl]
    rfl

theorem IsSpot.contents?_beside (spot : IsSpot disk base path folder name)
    (given : disk.contents? base path = some old) (beside : disk.contents? base other = some bytes) :
    after.contents? base other = some bytes ∨ after.contents? base other = some file.bytes :=
  contents?_of_no_way_on kept there (fun _ _ _ _ _ arrived => spot.no_way_on given arrived) beside

theorem contents?_after_leaf {leaf : Entry} (isLeaf : leaf.isLeaf = true)
    (was : disk.get? (folder ++ [name]) = some leaf) (given : disk.contents? base path = some bytes) :
    after.contents? base path = some bytes ∨ after.contents? base path = some file.bytes := by
  refine contents?_of_no_way_on kept there ?_ given
  intro left rest asked place plain arrived
  rw [walk_leaf _ _ plain _ _ was isLeaf] at arrived
  split at arrived
  · rename_i last
    simpa using last
  · simp at arrived

end Final

section Free

variable {disk after : Disk} {base folder : Location} {path : Path} {name : Bytes}

theorem find_at_free (found : disk.find base path false = .ok (.vacant folder name false))
    (kept : KeptOff disk after (folder ++ [name])) (followLast : Bool) :
    Plain name ∧ ∃ left,
      after.find base path followLast = after.walk followLast left folder [name] false := by
  obtain ⟨plain, left, rest, asked, course⟩ := (arrives_of_find found).comes_to ⟨rfl, rfl⟩
  have absent := (arrives_of_find found).holds.1
  have short := course disk false (by simp) (KeptOff.refl _ _)
  rw [(arrives_of_find found).walk_eq, walk_none _ _ plain _ _ absent] at short
  split at short
  · rename_i last
    simp only [Except.ok.injEq, Place.vacant.injEq, true_and] at short
    subst last short
    exact ⟨plain, left, by rw [find_eq_walk (usable_of_find found), course after _ (by simp) kept]⟩
  · simp at short

theorem find_filled {file : File} (found : disk.find base path false = .ok (.vacant folder name false))
    (kept : KeptOff disk after (folder ++ [name])) (there : after.get? (folder ++ [name]) = some (.file file))
    (followLast : Bool) :
    after.find base path followLast = .ok (.occupied (folder ++ [name]) (.file file)) := by
  obtain ⟨plain, left, course⟩ := find_at_free found kept followLast
  rw [course, walk_leaf _ _ plain _ _ there rfl]
  rfl

theorem not_holds_erase {location : Location} {entry : Entry} (proper : entry ≠ .folder)
    (spot : location = folder ++ [name])
    (found : disk.find base path false = .ok (.occupied location entry)) :
    (disk.erase location).holds base path = false := by
  subst spot
  obtain ⟨plain, left, rest, asked, course⟩ := (arrives_of_find found).comes_to ⟨rfl, proper⟩
  have gone := course (disk.erase (folder ++ [name])) false (by simp) (keptOff_erase _ _)
  rw [walk_none _ _ plain _ _ (get?_erase_self _ _ (by simp))] at gone
  rw [holds, find_eq_walk (usable_of_find found), gone]
  by_cases last : rest = []
  · rw [if_pos last]
  · rw [if_neg last]

end Free

end Disk

end PipDriver
