import Mathlib.Data.Nat.Digits.Defs
import PipDriver.Proofs.Folders

/-!
Temporary files in company. The names that are drawn are of one length, so that there is room for all of them at a
path or for none, and a new one is always free.
-/

namespace PipDriver

open Bytes (slash)

open Disk

section Names

theorem digit_of_mem_padded {number : Nat} {character : Char} (member : character ∈ padded number) :
    character.isDigit = true := by
  simp only [padded, List.mem_append, List.mem_replicate] at member
  rcases member with ⟨-, rfl⟩ | digit
  · decide
  · exact Nat.isDigit_of_mem_toDigits (by omega) (by omega) digit

theorem serial_eq (number : Nat) : serial number = (padded number).map fun digit => UInt8.ofNat digit.toNat := by
  refine Text.encoded_of_ascii fun digit member => ?_
  have bounds := Char.isDigit_iff_toNat.mp (digit_of_mem_padded member)
  have most : '9'.toNat < 128 := by decide
  omega

theorem serial_long (number : Nat) : 6 ≤ (serial number).length := by
  simp only [serial_eq, padded, List.length_map, List.length_append, List.length_replicate]
  omega

theorem serial_length {number : Nat} (few : number < 1000000) : (serial number).length = 6 := by
  have length : (Text.ofNat number).length ≤ 6 := Nat.toDigits_length 10 number 6 (by omega) (by omega)
  simp only [serial_eq, padded, List.length_map, List.length_append, List.length_replicate]
  omega

end Names

namespace Company

theorem temporaryName_length (number : Nat) :
    (temporaryName number).length = 8 + (serial number).length + 4 := by
  rw [temporaryName, List.length_append, List.length_append]
  rfl

theorem temporaryName_long (number : Nat) : 2 < (temporaryName number).length := by
  have length : AtomicFile.nameStart.length = 8 := rfl
  simp only [temporaryName, List.length_append]
  omega

theorem temporaryName_isName (number : Nat) : Bytes.IsName (temporaryName number) := by
  constructor
  · intro empty
    have long := temporaryName_long number
    rw [empty] at long
    cases long
  · simp only [temporaryName, List.mem_append, not_or]
    exact ⟨⟨by decide, slash_notMem_serial number⟩, by decide⟩

theorem nul_notMem_temporaryName (number : Nat) : 0 ∉ temporaryName number := by
  simp only [temporaryName, List.mem_append, not_or]
  refine ⟨⟨by decide, fun member => ?_⟩, by decide⟩
  have digit := digit_of_mem_padded ((Text.mem_encoded_iff (show '\x00'.toNat < 128 by decide) (padded number)).mp member)
  exact absurd digit (by decide)

theorem temporaryName_plain {number : Nat} (few : number < 1000000) : Plain (temporaryName number) where
  notDot := by
    intro same
    have long := temporaryName_long number
    rw [same] at long
    exact absurd long (by decide)
  notDots := by
    intro same
    have long := temporaryName_long number
    rw [same] at long
    exact absurd long (by decide)
  short := by
    rw [temporaryName_length, serial_length few]
    decide

theorem temporaryName_route (number : Nat) :
    (Path.ofBytes (temporaryName number)).isAbsolute = false ∧
      (Path.ofBytes (temporaryName number)).route.names = [temporaryName number] := by
  refine ⟨rfl, ?_⟩
  have is := temporaryName_isName number
  simp [Path.route, Route.ofBytes, Text.fields_of_notMem is.whole, is.given]

theorem isFresh_of_get? {disk : Disk} {name : Bytes}
    (free : ∀ location, location.getLast? = some name → disk.get? location = none) : disk.isFresh name = true := by
  refine List.all_eq_true.mpr fun entry member => ?_
  simp only [decide_eq_true_eq]
  intro named
  have below : entry.1 ≠ [] := by
    intro empty
    simp [empty] at named
  exact (get?_ne_none_iff below).mpr ⟨entry, member, rfl⟩ (free entry.1 named)

/-- The first name that is tried is the one that was drawn. -/
theorem freshName?_eq {disk : Disk} {number : Nat} {avoided : List Bytes}
    (fresh : disk.isFresh (temporaryName number) = true) (apart : temporaryName number ∉ avoided) :
    disk.freshName? number avoided AtomicFile.nameStart AtomicFile.nameEnding = some (temporaryName number) := by
  have good : (disk.isFresh (temporaryName number) && decide (temporaryName number ∉ avoided)) = true := by
    simp [fresh, apart]
  simp only [freshName?, List.range_succ_eq_map, List.map_cons]
  exact List.find?_cons_of_pos good

section Paths

variable {company : Company} {relative above : Path} {number other : Nat} {world : World}

theorem temporary_eq (hosted : ∃ drawn, world.host = { company.start.host with firstSerial := drawn })
    (relative : Path) (number : Nat) :
    Temporary.pathIn world (AtomicFile.folderOf world (company.copy relative)) (temporaryName number) =
      company.temporary relative number := by
  obtain ⟨drawn, same⟩ := hosted
  obtain ⟨disk, host, events⟩ := world
  subst same
  rfl

theorem temporary_route (found : (company.copy relative).parent? = some above) (number : Nat) :
    (company.temporary relative number).route.names =
        (company.start.absolute above).route.names ++ [temporaryName number] ∧
      startOf company.base (company.temporary relative number) = [] ∧
      (company.temporary relative number).route.closed = false := by
  have folder : AtomicFile.folderOf company.start (company.copy relative) = above := by
    simp [AtomicFile.folderOf, found]
  have same : company.temporary relative number = (company.start.absolute above).join ⟨temporaryName number⟩ := by
    rw [temporary, Temporary.pathIn, folder]
  obtain ⟨inside, lone⟩ := temporaryName_route number
  have joined := Path.route_join_relative (company.start.absolute above) inside
  have named := Path.route_join (temporaryName_isName number) (World.absolute_isEmpty company.start above)
  rw [same, joined.1, lone, startOf, joined.2, World.absolute_route]
  exact ⟨rfl, rfl, named.2⟩

theorem temporary_bytes (company : Company) (relative : Path) : ∃ before, ∀ number,
    (company.temporary relative number).bytes = before ++ temporaryName number := by
  have given := World.absolute_isEmpty company.start (AtomicFile.folderOf company.start (company.copy relative))
  unfold temporary Temporary.pathIn
  generalize company.start.absolute (AtomicFile.folderOf company.start (company.copy relative)) = folder at given
  by_cases slashed : folder.bytes.endsWith [slash] = true
  · exact ⟨folder.bytes, fun number => by simp [Path.join, (temporaryName_route number).1, given, slashed]⟩
  · exact ⟨folder.bytes ++ [slash], fun number => by simp [Path.join, (temporaryName_route number).1, given, slashed]⟩

/-- Where there is room for one temporary file, there is room for all with a name of six digits. -/
theorem roomy_of_usable (usable : pathFault? (company.temporary relative number) = none)
    (few : other < 1000000) : pathFault? (company.temporary relative other) = none := by
  obtain ⟨before, split⟩ := temporary_bytes company relative
  have long := serial_long number
  obtain ⟨unmarked, -, short⟩ := Path.usable_iff.mp usable
  rw [split, List.mem_append, not_or] at unmarked
  rw [split, List.length_append, temporaryName_length] at short
  rw [Path.usable_iff, split, List.mem_append, not_or, List.length_append, temporaryName_length,
    serial_length few]
  exact ⟨⟨unmarked.1, nul_notMem_temporaryName other⟩, by simp [(temporaryName_isName other).given], by omega⟩

theorem Settled.sited_clear (settled : company.Settled) :
    Clear company.start.disk [] company.start.host.workingPath.route.names ∧
      reach [] company.start.host.workingPath.route.names = company.base := by
  have sited := settled.sited
  unfold folderAt at sited
  split at sited
  · rename_i location found
    have outset : startOf [] company.start.host.workingPath = [] := by
      unfold startOf
      split <;> rfl
    have ending := clear_of_find_folder settled.linkFree found
    rw [outset] at ending
    exact ⟨ending.1, ending.2 ▸ Except.ok.inj sited⟩
  · cases sited
  · cases sited
  · cases sited

/-- The way to a temporary file is that to its folder, from the working folder or from the root. -/
theorem temporary_ways (settled : company.Settled) (found : (company.copy relative).parent? = some above)
    (standing : company.Standing world) (laid : company.Laid above world) (number : Nat) :
    ∀ way ∈ (company.temporary relative number).ways company.base, world.disk.get? way = some .folder := by
  obtain ⟨names, outset, -⟩ := temporary_route found number
  obtain ⟨clear, leads⟩ := settled.sited_clear
  intro way on
  rw [Path.ways, names, outset, List.dropLast_concat, World.absolute_names] at on
  by_cases absolute : above.isAbsolute = true
  · rw [if_pos absolute, List.nil_append] at on
    have same : startOf company.base above = [] := if_pos absolute
    exact laid way (same ▸ on)
  · rw [if_neg absolute, stops_append, leads] at on
    have same : startOf company.base above = company.base := if_neg absolute
    rcases List.mem_append.mp on with early | late
    · exact standing.sound.folder (clear.folders way early)
    · exact laid way (same.symm ▸ late)

theorem Passable.temporary_fit (passable : company.Passable relative) (settled : company.Settled)
    (found : (company.copy relative).parent? = some above) (few : number < 1000000) :
    (company.temporary relative number).Fit := by
  obtain ⟨names, -, unclosed⟩ := temporary_route found number
  refine ⟨passable.roomy number few, unclosed, ⟨_, by simp [names], temporaryName_plain few⟩, ?_⟩
  intro name member
  rw [names, World.absolute_names] at member
  rcases List.mem_append.mp member with early | late
  · rcases List.mem_append.mp early with working | lying
    · split at working
      · cases working
      · exact settled.sited_clear.1.short name working
    · exact (leading_of_parent found).short passable name lying
  · exact List.mem_singleton.mp late ▸ (temporaryName_plain few).short

end Paths

end Company

end PipDriver
