import PipDriver.Proofs.Parents
import PipDriver.Proofs.Trees

/-!
Paths without links on their way, on disks that may have links elsewhere. A walk looks at nothing but the locations
on its way, so what holds on disks without links holds of such paths as well; and the folders that are made for
them are on their way.
-/

namespace PipDriver

namespace Disk

def Unlinked (disk : Disk) (locations : List Location) : Prop :=
  ∀ location ∈ locations, ∀ target, disk.get? location ≠ some (.link target)

/-- The disk with nothing on it but what is at these locations. -/
def only (disk : Disk) (locations : List Location) : Disk :=
  ⟨disk.entries.filter fun entry => entry.1 ∈ locations⟩

variable {disk before between after : Disk} {locations ways : List Location} {location here : Location}
  {names : List Bytes} {followLast closed : Bool} {links : Nat}

theorem get?_only (among : location ∈ locations) : (disk.only locations).get? location = disk.get? location := by
  have kept : decide (location ∈ locations) = true := decide_eq_true among
  by_cases root : location = []
  · simp [root]
  · simp only [get?, root, if_false]
    exact lookup_filter disk.entries (fun place => decide (place ∈ locations)) kept

theorem Unlinked.only_linkFree (unlinked : disk.Unlinked locations) : (disk.only locations).LinkFree := by
  intro location target linked
  have below : location ≠ [] := by
    rintro rfl
    simp at linked
  have among := (List.mem_filter.mp (mem_of_get? below linked)).2
  rw [decide_eq_true_eq] at among
  rw [get?_only among] at linked
  exact unlinked location among target linked

theorem Unlinked.walk_only (unlinked : disk.Unlinked locations)
    (within : ∀ stop ∈ stops here names, stop ∈ locations) :
    (disk.only locations).walk followLast links here names closed = disk.walk followLast links here names closed := by
  induction names generalizing here with
  | nil => rw [walk_nil, walk_nil]
  | cons name rest ih =>
      rcases plain_cases name with rfl | rfl | ⟨notDot, notDots, long⟩ | plain
      · rw [walk_dot, walk_dot]
        exact ih (by simpa [stops] using within)
      · rw [walk_dots, walk_dots]
        exact ih (by simpa [stops] using within)
      · rw [walk_long _ _ _ _ _ _ notDot notDots long, walk_long _ _ _ _ _ _ notDot notDots long]
      · rw [stops_cons here rest plain.notDot plain.notDots] at within
        have among := within _ List.mem_cons_self
        have later := ih fun stop member => within stop (List.mem_cons_of_mem _ member)
        cases there : disk.get? (here ++ [name]) with
        | none => rw [walk_none _ _ plain _ _ there, walk_none _ _ plain _ _ ((get?_only among).trans there)]
        | some entry =>
            have same := (get?_only among).trans there
            rcases entry.folder_or_link_or_leaf with rfl | ⟨target, rfl⟩ | leaf
            · rw [walk_folder _ _ plain _ _ there, walk_folder _ _ plain _ _ same, later]
            · exact (unlinked _ among target there).elim
            · rw [walk_leaf _ _ plain _ _ there leaf, walk_leaf _ _ plain _ _ same leaf]

theorem Built.unlinked (built : Built before after) (unlinked : before.Unlinked locations) :
    after.Unlinked locations := by
  intro location among target linked
  rcases built.came location _ linked with same | impossible
  · exact unlinked location among target same
  · cases impossible

def BuiltOn (ways : List Location) (before after : Disk) : Prop :=
  ∀ location, after.get? location = before.get? location ∨
    (location ∈ ways ∧ before.get? location = none ∧ after.get? location = some .folder)

theorem BuiltOn.refl (ways : List Location) (disk : Disk) : BuiltOn ways disk disk := fun _ => Or.inl rfl

theorem BuiltOn.built (built : BuiltOn ways before after) : Built before after :=
  fun location => (built location).imp_right And.right

theorem BuiltOn.trans (first : BuiltOn ways before between) (second : BuiltOn ways between after) :
    BuiltOn ways before after := by
  intro location
  rcases second location with same | ⟨on, absent, made⟩
  · rw [same]
    exact first location
  · rcases first location with same | ⟨-, -, present⟩
    · exact Or.inr ⟨on, same ▸ absent, made⟩
    · simp [present] at absent

theorem BuiltOn.mono {more : List Location} (built : BuiltOn ways before after)
    (wider : ∀ location ∈ ways, location ∈ more) : BuiltOn more before after :=
  fun location => (built location).imp_right (And.imp_left (wider location))

end Disk

open Disk

namespace Path

def trail (base : Location) (path : Path) : List Location := stops (startOf base path) path.route.names

variable {disk : Disk} {base location here : Location} {path parent : Path} {last : Bytes} {followLast asked : Bool}

theorem ways_subset_trail (base : Location) (path : Path) : ∀ way ∈ path.ways base, way ∈ path.trail base :=
  fun _ member => stops_of_prefix _ (List.dropLast_prefix _) member

theorem Fit.spot_mem_trail (fit : path.Fit) (base : Location) : path.spot base ∈ path.trail base := by
  obtain ⟨front, last, names, plain, -, spot⟩ := fit.split base
  rw [spot, trail, names, stops_append, stops_cons _ _ plain.notDot plain.notDots]
  exact List.mem_append_right _ List.mem_cons_self

theorem IsParent.trail_subset (is : IsParent path parent) (base : Location) :
    ∀ stop ∈ parent.trail base, stop ∈ path.trail base := by
  intro stop member
  rw [trail, ← stops_core, is.names, startOf, is.absolute] at member
  rw [trail, ← stops_core]
  exact stops_of_prefix _ (List.dropLast_prefix _) member

theorem IsParent.unlinked (is : IsParent path parent) (unlinked : disk.Unlinked (path.trail base)) :
    disk.Unlinked (parent.trail base) :=
  fun stop member => unlinked stop (is.trail_subset base stop member)

variable (unlinked : disk.Unlinked (path.trail base))
include unlinked

theorem find_only (followLast : Bool) :
    (disk.only (path.trail base)).find base path followLast = disk.find base path followLast := by
  cases fault : pathFault? path with
  | some fault_ => simp [find, fault]
  | none =>
      rw [find_eq_walk fault, find_eq_walk fault]
      exact unlinked.walk_only fun _ member => member

theorem mem_trail_of_vacant (found : disk.find base path followLast = .ok (.vacant here last asked)) :
    here ++ [last] ∈ path.trail base := by
  rw [← find_only unlinked] at found
  obtain ⟨front, names, rfl, -, plain, -⟩ := front_of_find_vacant unlinked.only_linkFree found
  rw [trail, names, stops_append, stops_cons _ _ plain.notDot plain.notDots]
  exact List.mem_append_right _ List.mem_cons_self

/-- What can be moved to a path gets to the spot of the path, by way of folders. -/
theorem moveTarget_unlinked (allowed : disk.moveTarget base path = .ok location) :
    path.Fit ∧ (∀ way ∈ path.ways base, disk.get? way = some .folder) ∧
      disk.get? (path.spot base) ≠ some .folder ∧ location = path.spot base := by
  obtain ⟨-, -, -, -, unclosed, -⟩ := spot_of_moveTarget allowed
  have there : (disk.only (path.trail base)).moveTarget base path = .ok location := by
    unfold moveTarget at allowed ⊢
    rw [openEnd_eq_self unclosed] at allowed ⊢
    rwa [find_only unlinked]
  obtain ⟨fit, folders, proper, same⟩ := fit_of_moveTarget unlinked.only_linkFree there
  refine ⟨fit, fun way member => ?_, ?_, same⟩
  · rw [← get?_only (ways_subset_trail base path way member)]
    exact folders way member
  · rwa [← get?_only (fit.spot_mem_trail base)]

theorem makeFolder_builtOn (trimmed : openEnd path = path) {made : Disk}
    (done : disk.makeFolder base path = .ok made) : BuiltOn (path.trail base) disk made := by
  obtain ⟨folder, name, asked, found, rfl⟩ := find_of_makeFolder done
  rw [trimmed] at found
  have on := mem_trail_of_vacant unlinked found
  have absent := (arrives_of_find found).holds.1
  intro location
  by_cases same : location = folder ++ [name]
  · subst same
    exact Or.inr ⟨on, absent, get?_put_self _ _ _ (by simp)⟩
  · exact Or.inl (get?_put_of_ne _ _ _ _ same)

omit unlinked in
theorem makeFolders_builtOn (disk : Disk) (base : Location) (path : Path) (unlinked : disk.Unlinked (path.trail base))
    (trimmed : openEnd path = path) : BuiltOn (path.trail base) disk (disk.makeFolders base path).2 := by
  fun_induction makeFolders disk base path with
  | case1 | case3 | case4 | case8 => exact BuiltOn.refl _ _
  | case2 path given made done => exact makeFolder_builtOn unlinked trimmed done
  | case5 path given fault refused again parent above shorter failed changed done ih
  | case7 path given fault refused again parent above shorter changed done failed last ih =>
      have is := isParent_of_parent? above
      have built := ih (is.unlinked unlinked) is.trimmed
      rw [done] at built
      exact built.mono (is.trail_subset base)
  | case6 path given fault refused again parent above shorter changed done made last ih =>
      have is := isParent_of_parent? above
      have built := ih (is.unlinked unlinked) is.trimmed
      rw [done] at built
      have still := built.built.unlinked unlinked
      exact (built.mono (is.trail_subset base)).trans (makeFolder_builtOn still trimmed last)

end Path

theorem AtomicFile.prepared_builtOn {world : World} {path : Path}
    (unlinked : world.disk.Unlinked (path.trail world.host.folder)) :
    BuiltOn (path.trail world.host.folder) world.disk (prepared world path) := by
  unfold prepared
  split
  · exact BuiltOn.refl _ _
  · rename_i parent above
    have is := Path.isParent_of_parent? above
    exact (Path.makeFolders_builtOn _ _ parent (is.unlinked unlinked) is.trimmed).mono (is.trail_subset _)

end PipDriver
