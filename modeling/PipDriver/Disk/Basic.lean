import PipDriver.Text.Utf8

/-!
A disk is a finite map from locations to entries. A location names each folder on the way down from the
root; the root itself has no entry and is always a folder.
-/

namespace PipDriver

abbrev Location := List Bytes

instance lawfulLocations : LawfulBEq (List (List UInt8)) := inferInstance

local instance bytesEquality : DecidableEq ByteArray := ByteArray.instDecidableEq

structure File where
  bytes : ByteArray
  executable : Bool := false
deriving DecidableEq

inductive Device
  /-- It is always empty and keeps nothing. -/
  | empty
  /-- It stands for a channel of the process that opens it. -/
  | channel (number : Nat)
deriving DecidableEq

inductive Entry
  | file (file : File)
  | folder
  | link (target : Bytes)
  | device (device : Device)
deriving DecidableEq

structure Disk where
  entries : List (Location × Entry) := []
deriving DecidableEq

namespace Disk

def get? (disk : Disk) (location : Location) : Option Entry :=
  if location = [] then some .folder else disk.entries.lookup location

def erase (disk : Disk) (location : Location) : Disk :=
  ⟨disk.entries.filter fun entry => entry.1 ≠ location⟩

def put (disk : Disk) (location : Location) (entry : Entry) : Disk :=
  ⟨(location, entry) :: (disk.erase location).entries⟩

def eraseBelow (disk : Disk) (location : Location) : Disk :=
  ⟨disk.entries.filter fun entry => !location.isPrefixOf entry.1⟩

@[simp] theorem get?_root (disk : Disk) : disk.get? [] = some .folder := by simp [get?]

theorem lookup_filter_ne (entries : List (Location × Entry)) (location other : Location)
    (different : other ≠ location) :
    (entries.filter fun entry => entry.1 ≠ location).lookup other = entries.lookup other := by
  induction entries with
  | nil => rfl
  | cons entry rest ih =>
    obtain ⟨place, value⟩ := entry
    by_cases same : place = location
    · subst same
      have skipped : (other == place) = false := by simpa using different
      simp only [List.lookup_cons, skipped]
      simpa using ih
    · simp only [List.filter_cons, ne_eq, same, not_false_eq_true, decide_true, if_true, List.lookup_cons]
      split
      · rfl
      · simpa using ih

theorem get?_erase_of_ne (disk : Disk) (location other : Location) (different : other ≠ location) :
    (disk.erase location).get? other = disk.get? other := by
  unfold get?
  split
  · rfl
  · exact lookup_filter_ne disk.entries location other different

@[simp] theorem get?_erase_self (disk : Disk) (location : Location) (below : location ≠ []) :
    (disk.erase location).get? location = none := by
  simp only [get?, below, if_false, erase, List.lookup_eq_none_iff, bne_iff_ne]
  intro entry member same
  have kept := (List.mem_filter.mp member).2
  simp [same] at kept

@[simp] theorem get?_put_self (disk : Disk) (location : Location) (entry : Entry)
    (below : location ≠ []) : (disk.put location entry).get? location = some entry := by
  simp [get?, below, put]

theorem get?_put_of_ne (disk : Disk) (location other : Location) (entry : Entry)
    (different : other ≠ location) : (disk.put location entry).get? other = disk.get? other := by
  rw [← get?_erase_of_ne disk location other different]
  unfold get?
  split
  · rfl
  · have skipped : (other == location) = false := by simpa using different
    simp [put, List.lookup_cons, skipped]

end Disk

end PipDriver
