import PipDriver.Proofs.TemporaryNames

/-!
What the changes to a disk come to: folders are only made where nothing was, a new file is put at a free name,
and a file that is moved takes one spot.
-/

namespace PipDriver.Disk

open Bytes (dot)

theorem mem_of_get? {disk : Disk} {location : Location} {entry : Entry} (below : location ≠ [])
    (found : disk.get? location = some entry) : (location, entry) ∈ disk.entries := by
  simp only [get?, below, if_false] at found
  obtain ⟨before, after, same, -⟩ := List.lookup_eq_some_iff.mp found
  simp [same]

theorem erase_of_get?_eq_none {disk : Disk} {location : Location} (below : location ≠ [])
    (absent : disk.get? location = none) : disk.erase location = disk := by
  simp only [get?, below, if_false, List.lookup_eq_none_iff, bne_iff_ne] at absent
  have kept : disk.entries.filter (fun entry => decide (entry.1 ≠ location)) = disk.entries := by
    rw [List.filter_eq_self]
    intro entry member
    simpa using Ne.symm (absent entry member)
  rw [erase, kept]

theorem erase_put (disk : Disk) (location : Location) (entry : Entry) :
    (disk.put location entry).erase location = disk.erase location := by
  simp [put, erase]

theorem put_put (disk : Disk) (location : Location) (first second : Entry) :
    (disk.put location first).put location second = disk.put location second := by
  rw [put, erase_put]
  rfl

def Built (before after : Disk) : Prop :=
  ∀ location, after.get? location = before.get? location ∨
    (before.get? location = none ∧ after.get? location = some .folder)

theorem Built.refl (disk : Disk) : Built disk disk := fun _ => Or.inl rfl

theorem Built.trans {before between after : Disk} (first : Built before between)
    (second : Built between after) : Built before after := by
  intro location
  rcases second location with same | ⟨absent, made⟩
  · rw [same]
    exact first location
  · rcases first location with same | ⟨_, present⟩
    · exact Or.inr ⟨same ▸ absent, made⟩
    · simp [present] at absent

theorem Built.kept {before after : Disk} (built : Built before after) (location : Location) (entry : Entry)
    (found : before.get? location = some entry) : after.get? location = some entry := by
  rcases built location with same | ⟨absent, _⟩
  · rw [same, found]
  · simp [found] at absent

theorem Built.came {before after : Disk} (built : Built before after) (location : Location) (entry : Entry)
    (found : after.get? location = some entry) : before.get? location = some entry ∨ entry = .folder := by
  rcases built location with same | ⟨_, made⟩
  · exact Or.inl (same ▸ found)
  · rw [made, Option.some.injEq] at found
    exact Or.inr found.symm

theorem built_put_folder {disk : Disk} {folder : Location} {name : Bytes}
    (absent : disk.get? (folder ++ [name]) = none) : Built disk (disk.put (folder ++ [name]) .folder) := by
  intro location
  by_cases same : location = folder ++ [name]
  · subst same
    exact Or.inr ⟨absent, get?_put_self _ _ _ (by simp)⟩
  · exact Or.inl (get?_put_of_ne _ _ _ _ same)

theorem find_of_makeFolder {disk made : Disk} {base : Location} {path : Path}
    (done : disk.makeFolder base path = .ok made) : ∃ folder name asked,
      disk.find base (openEnd path) false = .ok (.vacant folder name asked) ∧
      made = disk.put (folder ++ [name]) .folder := by
  unfold makeFolder at done
  split at done
  · cases done
  · rename_i folder name asked found
    exact ⟨folder, name, asked, found, (Except.ok.inj done).symm⟩
  · cases done

theorem makeFolder_built {disk made : Disk} {base : Location} {path : Path}
    (done : disk.makeFolder base path = .ok made) : Built disk made := by
  obtain ⟨folder, name, asked, found, rfl⟩ := find_of_makeFolder done
  exact built_put_folder (arrives_of_find found).holds.1

theorem makeFolders_built (disk : Disk) (base : Location) (path : Path) :
    Built disk (disk.makeFolders base path).2 := by
  fun_induction makeFolders disk base path with
  | case1 | case3 | case4 | case8 => exact Built.refl _
  | case2 path given made done => exact makeFolder_built done
  | case5 path given fault refused again parent above shorter failed changed done ih =>
      simpa only [done] using ih
  | case6 path given fault refused again parent above shorter changed done made last ih =>
      simp only [done] at ih
      exact ih.trans (makeFolder_built last)
  | case7 path given fault refused again parent above shorter changed done failed last ih =>
      simpa only [done] using ih

theorem find_of_makeFile {disk made : Disk} {base : Location} {path : Path}
    (done : disk.makeFile base path = .ok made) :
    ∃ folder name, disk.find base path false = .ok (.vacant folder name false) ∧
      made = disk.put (folder ++ [name]) (.file { bytes := .empty }) := by
  unfold makeFile at done
  split at done
  · simp at done
  · rename_i folder name asked found
    cases asked with
    | true => simp at done
    | false =>
        simp only [Bool.false_eq_true, if_false, Except.ok.injEq] at done
        exact ⟨folder, name, found, done.symm⟩
  · simp at done

theorem get?_of_find_free {disk : Disk} {base folder : Location} {path : Path} {name : Bytes} {asked : Bool}
    (found : disk.find base path false = .ok (.vacant folder name asked)) :
    disk.get? (folder ++ [name]) = none :=
  (arrives_of_find found).holds.1

theorem write_occupied {disk : Disk} {base location : Location} {path : Path} {old : File}
    (found : disk.find base path = .ok (.occupied location (.file old))) (file : File) :
    disk.write base path file = .ok (disk.put location
      (.file { file with executable := old.executable || file.executable })) := by
  simp [write, found]

theorem namedBy_of_find {disk : Disk} {base : Location} {path : Path} {place : Place}
    (unclosed : path.route.closed = false) (found : disk.find base path false = .ok place) :
    NamedBy disk path.route.names place :=
  (arrives_of_find found).namedBy rfl unclosed

theorem last_of_find {disk : Disk} {base location : Location} {path : Path} {name : Bytes} {entry : Entry}
    (notDot : name ≠ [dot]) (notDots : name ≠ [dot, dot]) (last : path.route.names.getLast? = some name)
    (unclosed : path.route.closed = false)
    (found : disk.find base path false = .ok (.occupied location entry)) :
    location.getLast? = some name ∧ disk.get? location = some entry := by
  rcases namedBy_of_find unclosed found with ⟨named, held⟩ | ⟨-, dots⟩
  · exact ⟨named.trans last, held⟩
  · rcases dots name last with alone | dots
    · exact (notDot alone).elim
    · exact (notDots dots).elim

theorem spot_of_moveTarget {disk : Disk} {base location : Location} {path : Path}
    (allowed : disk.moveTarget base path = .ok location) :
    ∃ folder name, location = folder ++ [name] ∧ disk.IsSpot base path folder name ∧
      path.route.closed = false ∧ path.route.names.getLast? = some name := by
  unfold moveTarget at allowed
  split at allowed
  · simp at allowed
  split at allowed
  · simp at allowed
  rename_i place found
  split at allowed
  · simp at allowed
  rename_i notDots
  split at allowed
  · simp at allowed
  rename_i unclosed
  simp only [Bool.not_eq_true] at unclosed
  rw [Path.openEnd_eq_self unclosed] at found
  have named := namedBy_of_find unclosed found
  have some_ : ∃ name, path.route.names.getLast? = some name := by
    rw [← Option.isSome_iff_exists, Option.isSome_iff_ne_none]
    intro empty
    have : (Route.ofBytes path.bytes).names.getLast? = none := empty
    simp [endsInDots, this] at notDots
  obtain ⟨name, last⟩ := some_
  split at allowed
  · simp at allowed
  · rename_i there entry proper
    simp only [Except.ok.injEq] at allowed
    subst allowed
    have notFolder : entry ≠ .folder := fun same => proper (same ▸ rfl)
    rcases named with ⟨same, -⟩ | ⟨same, -⟩
    · rw [last] at same
      obtain ⟨folder, split⟩ := List.getLast?_eq_some_iff.mp same
      exact ⟨folder, name, split, ⟨_, found, split, notFolder⟩, unclosed, last⟩
    · exact (notFolder same).elim
  · rename_i folder free asked
    simp only [Except.ok.injEq] at allowed
    subst allowed
    have same : some name = some free := last.symm.trans named
    simp only [Option.some.injEq] at same
    subst same
    exact ⟨folder, name, rfl, ⟨_, found, rfl, rfl⟩, unclosed, last⟩

end PipDriver.Disk
