import PipDriver.Proofs.Fields
import PipDriver.Proofs.FindAcrossDisks
import PipDriver.Proofs.Spelling
import PipDriver.Storage.Temporary

/-!
The names that the bytes of a path give, and the names chosen for temporary files: they are single names, on
no disk and on no path that they are to be kept apart from.
-/

namespace PipDriver

open Bytes (slash)

structure Bytes.IsName (bytes : Bytes) : Prop where
  given : bytes ≠ []
  whole : slash ∉ bytes

theorem Bytes.endsWith_singleton_iff {bytes : Bytes} {byte : UInt8} :
    bytes.endsWith [byte] = true ↔ bytes.getLast? = some byte := by
  rw [Bytes.endsWith, List.isSuffixOf_iff_suffix, List.getLast?_eq_some_iff]
  constructor
  · rintro ⟨before, same⟩
    exact ⟨before, same.symm⟩
  · rintro ⟨before, same⟩
    exact ⟨before, same.symm⟩

namespace Path

theorem route_closed_iff (path : Path) : path.route.closed = true ↔ path.bytes.getLast? = some slash :=
  Bytes.endsWith_singleton_iff

theorem openEnd_eq_self {path : Path} (unclosed : path.route.closed = false) : Disk.openEnd path = path := by
  have open_ : path.bytes.getLast? ≠ some slash := by
    rw [ne_eq, ← route_closed_iff, unclosed]
    simp
  have kept : path.bytes.reverse.dropWhile (· = slash) = path.bytes.reverse := by
    cases reversed : path.bytes.reverse with
    | nil => rfl
    | cons last before =>
        have different : last ≠ slash := by
          rintro rfl
          rw [List.getLast?_eq_head?_reverse, reversed] at open_
          exact open_ rfl
        exact List.dropWhile_cons_of_neg (by simpa using different)
  simp [Disk.openEnd, kept]

theorem route_join {folder : Path} {name : Bytes} (isName : Bytes.IsName name) (given : folder.isEmpty = false) :
    (folder.join ⟨name⟩).route.names.getLast? = some name ∧ (folder.join ⟨name⟩).route.closed = false := by
  have relative : (Path.ofBytes name).isAbsolute = false := by
    cases name with
    | nil => rfl
    | cons first rest =>
        have different : slash ≠ first := by
          rintro rfl
          exact isName.whole (by simp)
        simp [isAbsolute, Bytes.startsWith, List.isPrefixOf, different]
  have split : ∃ before, (folder.join ⟨name⟩).bytes = before ++ slash :: name := by
    by_cases slashed : Bytes.endsWith folder.bytes [slash] = true
    · obtain ⟨before, same⟩ := List.getLast?_eq_some_iff.mp (Bytes.endsWith_singleton_iff.mp slashed)
      refine ⟨before, ?_⟩
      have joined : folder.join ⟨name⟩ = ⟨folder.bytes ++ name⟩ := by
        simp [join, relative, given, slashed]
      simp [joined, same]
    · exact ⟨folder.bytes, by simp [join, relative, given, slashed]⟩
  obtain ⟨before, same⟩ := split
  constructor
  · simp [route, Route.ofBytes, same, Text.fields_append, Text.fields_of_notMem isName.whole, isName.given]
  · rw [← Bool.not_eq_true, route_closed_iff, same, List.append_cons]
    rcases List.eq_nil_or_concat name with empty | ⟨rest, last, split⟩
    · exact (isName.given empty).elim
    · have named : last ≠ slash := by
        rintro rfl
        exact isName.whole (by simp [split])
      simpa [split, List.getLast?_cons] using named

end Path

theorem World.absolute_isEmpty (world : World) (path : Path) : (world.absolute path).isEmpty = false := by
  unfold World.absolute
  split
  · rename_i absolute
    cases path with
    | ofBytes bytes =>
        cases bytes with
        | nil => simp [Path.isAbsolute, Bytes.startsWith] at absolute
        | cons first rest => rfl
  · simp [Path.isEmpty]

namespace Disk

structure IsChosen (disk : Disk) (avoided : List Bytes) (start ending name : Bytes) : Prop where
  fresh : disk.isFresh name = true
  apart : name ∉ avoided
  shape : ∃ number, name = start ++ serial number ++ ending

theorem isChosen_of_freshName? {disk : Disk} {first : Nat} {avoided : List Bytes} {start ending name : Bytes}
    (chosen : disk.freshName? first avoided start ending = some name) :
    IsChosen disk avoided start ending name := by
  have good := List.find?_some chosen
  simp only [Bool.and_eq_true, decide_eq_true_eq] at good
  obtain ⟨number, _, same⟩ := List.mem_map.mp (List.mem_of_find?_eq_some chosen)
  exact ⟨good.1, good.2, first + number, same.symm⟩

theorem slash_notMem_serial (number : Nat) : slash ∉ serial number := by
  rw [serial, Text.slash_mem_encoded_iff, padded, List.mem_append, List.mem_replicate]
  intro member
  rcases member with ⟨_, zero⟩ | digit
  · exact absurd zero (by decide)
  · have isDigit : '/'.isDigit = true := Nat.isDigit_of_mem_toDigits (by omega) (by omega) digit
    exact absurd isDigit (by decide)

theorem IsChosen.isName {disk : Disk} {avoided : List Bytes} {start ending name : Bytes}
    (chosen : IsChosen disk avoided start ending name) (given : start ≠ []) (startWhole : slash ∉ start)
    (endingWhole : slash ∉ ending) : Bytes.IsName name := by
  obtain ⟨number, rfl⟩ := chosen.shape
  constructor
  · simp [given]
  · simp only [List.mem_append, not_or]
    exact ⟨⟨startWhole, slash_notMem_serial number⟩, endingWhole⟩

theorem get?_of_isFresh {disk : Disk} {name : Bytes} (fresh : disk.isFresh name = true)
    {location : Location} (named : location.getLast? = some name) : disk.get? location = none := by
  have below : location ≠ [] := by
    rintro rfl
    simp at named
  simp only [get?, below, if_false, List.lookup_eq_none_iff, bne_iff_ne, ne_eq]
  intro entry member same
  have other := List.all_eq_true.mp fresh entry member
  simp [← same, named] at other

end Disk

end PipDriver
