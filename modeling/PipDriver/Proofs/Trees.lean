import PipDriver.Proofs.Acquisition
import PipDriver.Proofs.LinkFreePaths

/-!
On a disk without links, what is made lies in a folder: folders are made below folders, and a copy is put into one.
-/

namespace PipDriver

namespace Disk

variable {disk after : Disk} {base here location : Location} {path : Path} {names : List Bytes} {last : Bytes}
  {entry : Entry} {asked followLast : Bool}

theorem Tree.above (tree : disk.Tree) (folder : disk.get? location = some .folder) :
    disk.get? location.dropLast = some .folder := by
  rcases List.eq_nil_or_concat location with rfl | ⟨front, name, rfl⟩
  · exact folder
  · rw [List.concat_eq_append] at folder ⊢
    rw [List.dropLast_concat]
    refine tree front name ?_
    simp [folder]

theorem Tree.reach (tree : disk.Tree) (start : disk.get? here = some .folder)
    (folders : ∀ stop ∈ stops here names, disk.get? stop = some .folder) :
    disk.get? (reach here names) = some .folder := by
  induction names generalizing here with
  | nil => exact start
  | cons name rest ih =>
      simp only [Disk.reach]
      simp only [stops] at folders
      split
      · rename_i dot
        rw [if_pos dot] at folders
        exact ih start folders
      · rename_i notDot
        rw [if_neg notDot] at folders
        split
        · rename_i dots
          rw [if_pos dots] at folders
          exact ih (tree.above start) folders
        · rename_i notDots
          rw [if_neg notDots] at folders
          exact ih (folders _ List.mem_cons_self) fun stop member => folders stop (List.mem_cons_of_mem _ member)

theorem get?_startOf (there : disk.get? base = some .folder) (path : Path) :
    disk.get? (startOf base path) = some .folder := by
  unfold startOf
  split
  · exact get?_root disk
  · exact there

theorem Tree.put (tree : disk.Tree) (parent : disk.get? here = some .folder)
    (proper : disk.get? (here ++ [last]) ≠ some .folder) (entry : Entry) : (disk.put (here ++ [last]) entry).Tree := by
  intro folder name there
  have folderThere : disk.get? folder = some .folder := by
    by_cases same : folder ++ [name] = here ++ [last]
    · obtain ⟨rfl, -⟩ := List.append_singleton_inj.mp same
      exact parent
    · rw [get?_put_of_ne _ _ _ _ same] at there
      exact tree folder name there
  have other : folder ≠ here ++ [last] := by
    rintro rfl
    exact proper folderThere
  rw [get?_put_of_ne _ _ _ _ other, folderThere]

theorem lookup_filter (entries : List (Location × Entry)) (keep : Location → Bool) (kept : keep location = true) :
    (entries.filter fun entry => keep entry.1).lookup location = entries.lookup location := by
  induction entries with
  | nil => rfl
  | cons entry rest ih =>
      obtain ⟨place, value⟩ := entry
      by_cases here : location = place
      · subst here
        simp [kept]
      · have other : (location == place) = false := by simpa using here
        by_cases stays : keep place = true
        · simp [stays, List.lookup_cons, other, ih]
        · simp [stays, List.lookup_cons, other, ih]

/-- Disks that have the same entries but below one location are the same but below it. -/
theorem get?_of_filter {above : Location}
    (same : after.entries.filter (fun entry => !above.isPrefixOf entry.1) =
      disk.entries.filter fun entry => !above.isPrefixOf entry.1)
    (apart : ¬above <+: location) : after.get? location = disk.get? location := by
  have kept : (!above.isPrefixOf location) = true := by
    rwa [Bool.not_eq_true', ← Bool.not_eq_true, List.isPrefixOf_iff_prefix]
  by_cases root : location = []
  · simp [root]
  · simp only [get?, root, if_false]
    rw [← lookup_filter after.entries (fun place => !above.isPrefixOf place) kept, same]
    exact lookup_filter disk.entries (fun place => !above.isPrefixOf place) kept

section Making

variable (linkFree : disk.LinkFree) (tree : disk.Tree) (there : disk.get? base = some .folder)
include linkFree tree there

theorem folder_of_vacant (found : disk.find base path followLast = .ok (.vacant here last asked)) :
    disk.get? here = some .folder := by
  obtain ⟨front, -, rfl, clear, -, -⟩ := front_of_find_vacant linkFree found
  exact tree.reach (get?_startOf there path) clear.folders

theorem makeFolder_tree (done : disk.makeFolder base path = .ok after) : after.Tree := by
  obtain ⟨folder, name, asked, found, rfl⟩ := find_of_makeFolder done
  have absent := (arrives_of_find found).holds.1
  exact tree.put (folder_of_vacant linkFree tree there found) (by simp [absent]) .folder

omit linkFree tree there in
theorem makeFolders_tree (disk : Disk) (base : Location) (path : Path) (linkFree : disk.LinkFree) (tree : disk.Tree)
    (there : disk.get? base = some .folder) : (disk.makeFolders base path).2.Tree := by
  fun_induction makeFolders disk base path with
  | case1 | case3 | case4 | case8 => exact tree
  | case2 path given made done => exact makeFolder_tree linkFree tree there done
  | case5 path given fault refused again parent above shorter failed changed done ih =>
      simpa only [done] using ih
  | case6 path given fault refused again parent above shorter changed done made last ih =>
      have built := makeFolders_built disk base parent
      rw [done] at ih built
      exact makeFolder_tree (built.linkFree linkFree) ih (built.kept _ _ there) last
  | case7 path given fault refused again parent above shorter changed done failed last ih =>
      simpa only [done] using ih

end Making

end Disk

open Disk AtomicFile

section Copies

variable {world : World} {copy : Path} {location : Location} (linkFree : world.disk.LinkFree) (tree : world.disk.Tree)
  (there : world.disk.get? world.host.folder = some .folder)
include linkFree tree there

theorem prepared_tree (copy : Path) : (prepared world copy).Tree := by
  unfold prepared
  split
  · exact tree
  · exact makeFolders_tree _ _ _ linkFree tree there

theorem stored_tree (allowed : (prepared world copy).moveTarget world.host.folder copy = .ok location)
    (bytes : ByteArray) : (stored world copy location bytes).Tree := by
  have built := prepared_built world copy
  have made := prepared_tree linkFree tree there copy
  obtain ⟨fit, folders, proper, rfl⟩ := (Path.moveTarget_iff (built.linkFree linkFree)).mp allowed
  obtain ⟨front, last, -, -, ways, spot⟩ := fit.split world.host.folder
  rw [spot] at proper ⊢
  refine made.put (made.reach (get?_startOf (built.kept _ _ there) copy) ?_) proper _
  exact fun stop member => folders stop (ways ▸ member)

/-- Whatever an acquisition comes to, it leaves a tree. -/
theorem Cache.acquire_tree {cache : Cache} {uri : Text} {relative : Path} (named : Cache.relative uri = .ok relative) :
    (cache.acquire (.remote uri) world).2.disk.Tree := by
  have course := currentCopy_course cache named world
  rw [acquire_remote]
  generalize cache.currentCopy uri world = ended at course
  cases course with
  | current _ _ _ => exact tree
  | missing _ => exact tree
  | refused _ => exact prepared_tree linkFree tree there _
  | renewed _ _ allowed stands _ _ _ => exact stands ▸ stored_tree linkFree tree there allowed _
  | lost allowed stands _ => exact stands ▸ stored_tree linkFree tree there allowed _
  | cutOff _ _ allowed stands _ _ =>
      rw [stands]
      exact stored_tree linkFree tree there allowed _

end Copies

end PipDriver
