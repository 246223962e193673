import PipDriver.Proofs.Changes

/-!
Walks on disks without links. Where names lead then follows from the names alone, and the walk gets there just
if every location that it looks up on the way is a folder.
-/

namespace PipDriver.Disk

open Bytes (dot)

def reach (here : Location) : List Bytes → Location
  | [] => here
  | name :: rest =>
    if name = [dot] then reach here rest
    else if name = [dot, dot] then reach here.dropLast rest
    else reach (here ++ [name]) rest

def stops (here : Location) : List Bytes → List Location
  | [] => []
  | name :: rest =>
    if name = [dot] then stops here rest
    else if name = [dot, dot] then stops here.dropLast rest
    else (here ++ [name]) :: stops (here ++ [name]) rest

def core (names : List Bytes) : List Bytes := names.filter fun name => name ≠ [dot]

section Names

variable (here : Location)

@[simp] theorem reach_nil : reach here [] = here := rfl

@[simp] theorem stops_nil : stops here [] = [] := rfl

variable {name : Bytes} (rest : List Bytes)

theorem reach_cons (notDot : name ≠ [dot]) (notDots : name ≠ [dot, dot]) :
    reach here (name :: rest) = reach (here ++ [name]) rest := by
  simp [reach, notDot, notDots]

theorem stops_cons (notDot : name ≠ [dot]) (notDots : name ≠ [dot, dot]) :
    stops here (name :: rest) = (here ++ [name]) :: stops (here ++ [name]) rest := by
  simp [stops, notDot, notDots]

theorem reach_append (front : List Bytes) : reach here (front ++ rest) = reach (reach here front) rest := by
  induction front generalizing here with
  | nil => rfl
  | cons name front ih =>
      simp only [List.cons_append, reach]
      split
      · exact ih here
      · split
        · exact ih _
        · exact ih _

theorem stops_append (front : List Bytes) :
    stops here (front ++ rest) = stops here front ++ stops (reach here front) rest := by
  induction front generalizing here with
  | nil => rfl
  | cons name front ih =>
      simp only [List.cons_append, reach, stops]
      split
      · exact ih here
      · split
        · exact ih _
        · rw [ih, List.cons_append]

theorem stops_core (names : List Bytes) : stops here (core names) = stops here names := by
  induction names generalizing here with
  | nil => rfl
  | cons name rest ih =>
      by_cases dot : name = [dot]
      · simpa [core, dot, stops] using ih here
      · have kept : core (name :: rest) = name :: core rest := by simp [core, dot]
        simp only [kept, stops, dot, if_false, ih]

theorem stops_of_prefix {part whole : List Bytes} (starts : part <+: whole) {stop : Location}
    (member : stop ∈ stops here part) : stop ∈ stops here whole := by
  obtain ⟨rest, rfl⟩ := starts
  rw [stops_append]
  exact List.mem_append_left _ member

theorem named_of_stop {names : List Bytes} {stop : Location} (member : stop ∈ stops here names) :
    ∃ name ∈ names, stop.getLast? = some name := by
  induction names generalizing here with
  | nil => simp at member
  | cons name rest ih =>
      have further : ∀ next, stop ∈ stops next rest → ∃ other ∈ name :: rest, stop.getLast? = some other := by
        intro next later
        obtain ⟨other, among, last⟩ := ih next later
        exact ⟨other, List.mem_cons_of_mem _ among, last⟩
      simp only [stops] at member
      split at member
      · exact further _ member
      · split at member
        · exact further _ member
        · rcases List.mem_cons.mp member with rfl | later
          · exact ⟨name, List.mem_cons_self, by simp⟩
          · exact further _ later

theorem reach_inside {names : List Bytes} (inside : [dot, dot] ∉ names) : reach here names = here ++ core names := by
  induction names generalizing here with
  | nil => simp [core]
  | cons name rest ih =>
      simp only [List.mem_cons, not_or] at inside
      by_cases dot : name = [dot]
      · simpa [core, dot, reach] using ih here inside.2
      · rw [reach_cons here rest dot (Ne.symm inside.1), ih _ inside.2]
        simp [core, dot]

theorem mem_stops_inside {names : List Bytes} (inside : [dot, dot] ∉ names) {stop : Location} :
    stop ∈ stops here names ↔ ∃ part, part ≠ [] ∧ part <+: core names ∧ stop = here ++ part := by
  induction names generalizing here with
  | nil =>
      simp only [stops_nil, List.not_mem_nil, core, List.filter_nil, List.prefix_nil, false_iff]
      rintro ⟨part, given, empty, -⟩
      exact given empty
  | cons name rest ih =>
      simp only [List.mem_cons, not_or] at inside
      by_cases dot : name = [dot]
      · simpa [core, dot, stops] using ih here inside.2
      · have kept : core (name :: rest) = name :: core rest := by simp [core, dot]
        rw [stops_cons here rest dot (Ne.symm inside.1), List.mem_cons, ih _ inside.2, kept]
        constructor
        · rintro (rfl | ⟨part, given, starts, rfl⟩)
          · exact ⟨[name], by simp, ⟨core rest, rfl⟩, rfl⟩
          · exact ⟨name :: part, by simp, (List.prefix_cons_inj name).mpr starts, by simp⟩
        · rintro ⟨part, given, starts, rfl⟩
          obtain ⟨first, others, rfl⟩ := List.exists_cons_of_ne_nil given
          obtain ⟨rfl, more⟩ := List.cons_prefix_cons.mp starts
          by_cases last : others = []
          · exact Or.inl (by simp [last])
          · exact Or.inr ⟨others, last, more, by simp⟩

end Names

def LinkFree (disk : Disk) : Prop := ∀ location target, disk.get? location ≠ some (.link target)

/-- What lies on the disk lies in folders. -/
def Tree (disk : Disk) : Prop := ∀ folder name, disk.get? (folder ++ [name]) ≠ none → disk.get? folder = some .folder

section Checks

variable {disk : Disk}

theorem get?_ne_none_iff {location : Location} (below : location ≠ []) :
    disk.get? location ≠ none ↔ ∃ entry ∈ disk.entries, entry.1 = location := by
  constructor
  · intro present
    obtain ⟨entry, found⟩ := Option.ne_none_iff_exists'.mp present
    exact ⟨_, mem_of_get? below found, rfl⟩
  · rintro ⟨entry, member, rfl⟩ absent
    simp only [get?, below, if_false, List.lookup_eq_none_iff, bne_iff_ne, ne_eq] at absent
    exact absent entry member rfl

theorem linkFree_iff : disk.LinkFree ↔
    ∀ entry ∈ disk.entries, (disk.get? entry.1).all fun found => match found with | .link _ => false | _ => true := by
  constructor
  · intro linkFree entry _
    cases found : disk.get? entry.1 with
    | none => rfl
    | some kind =>
        cases kind with
        | link target => exact (linkFree _ _ found).elim
        | _ => rfl
  · intro checked location target linked
    by_cases below : location = []
    · simp [below] at linked
    · have clear := checked _ (mem_of_get? below linked)
      simp [linked] at clear

theorem tree_iff : disk.Tree ↔
    ∀ entry ∈ disk.entries, entry.1 ≠ [] → disk.get? entry.1.dropLast = some .folder := by
  constructor
  · intro tree entry member below
    obtain ⟨folder, name, split⟩ := (List.eq_nil_or_concat entry.1).resolve_left below
    rw [List.concat_eq_append] at split
    rw [split, List.dropLast_concat]
    exact tree folder name ((get?_ne_none_iff (by simp)).mpr ⟨entry, member, split⟩)
  · intro checked folder name present
    obtain ⟨entry, member, same⟩ := (get?_ne_none_iff (by simp)).mp present
    have above := checked entry member (by simp [same])
    rwa [same, List.dropLast_concat] at above

instance decidableLinkFree : Decidable disk.LinkFree := decidable_of_iff' _ linkFree_iff

instance decidableTree : Decidable disk.Tree := decidable_of_iff' _ tree_iff

end Checks

theorem Tree.folder_above {disk : Disk} (tree : disk.Tree) (above below : Location) (more : below ≠ [])
    (there : disk.get? (above ++ below) ≠ none) : disk.get? above = some .folder := by
  induction below generalizing above with
  | nil => exact (more rfl).elim
  | cons name rest ih =>
      refine tree above name ?_
      by_cases last : rest = []
      · simpa [last] using there
      · have folder := ih (above ++ [name]) last (by simpa using there)
        simp [folder]

theorem Built.linkFree {before after : Disk} (built : Built before after) (linkFree : before.LinkFree) :
    after.LinkFree := by
  intro location target linked
  rcases built location with same | ⟨-, made⟩
  · exact linkFree location target (same ▸ linked)
  · simp [made] at linked

structure Clear (disk : Disk) (here : Location) (names : List Bytes) : Prop where
  folders : ∀ stop ∈ stops here names, disk.get? stop = some .folder
  short : ∀ name ∈ names, ¬longestName < name.length

section Walks

variable {disk : Disk} {followLast closed : Bool} {links : Nat} {here : Location} {front rest names : List Bytes}
  {place : Place}

theorem clear_nil (disk : Disk) (here : Location) : Clear disk here [] := ⟨by simp, by simp⟩

theorem Clear.cons_dot (clear : Clear disk here rest) : Clear disk here ([dot] :: rest) := by
  refine ⟨by simpa [stops] using clear.folders, ?_⟩
  intro name member
  rcases List.mem_cons.mp member with rfl | later
  · decide
  · exact clear.short name later

theorem Clear.cons_dots (clear : Clear disk here.dropLast rest) : Clear disk here ([dot, dot] :: rest) := by
  refine ⟨by simpa [stops] using clear.folders, ?_⟩
  intro name member
  rcases List.mem_cons.mp member with rfl | later
  · decide
  · exact clear.short name later

theorem Clear.plain {name : Bytes} (plain : Plain name) (found : disk.get? (here ++ [name]) = some .folder)
    (clear : Clear disk (here ++ [name]) rest) : Clear disk here (name :: rest) := by
  constructor
  · intro stop member
    rw [stops_cons here rest plain.notDot plain.notDots] at member
    rcases List.mem_cons.mp member with rfl | later
    · exact found
    · exact clear.folders stop later
  · intro other member
    rcases List.mem_cons.mp member with rfl | later
    · exact plain.short
    · exact clear.short other later

theorem Clear.append (first : Clear disk here front) (second : Clear disk (reach here front) rest) :
    Clear disk here (front ++ rest) := by
  constructor
  · intro stop member
    rw [stops_append] at member
    rcases List.mem_append.mp member with early | late
    · exact first.folders stop early
    · exact second.folders stop late
  · intro name member
    rcases List.mem_append.mp member with early | late
    · exact first.short name early
    · exact second.short name late

theorem Clear.left (clear : Clear disk here (front ++ rest)) : Clear disk here front where
  folders := fun stop member => clear.folders stop (by rw [stops_append]; exact List.mem_append_left _ member)
  short := fun name member => clear.short name (List.mem_append_left _ member)

theorem walk_clear (clear : Clear disk here front) (rest : List Bytes) :
    disk.walk followLast links here (front ++ rest) closed =
      disk.walk followLast links (reach here front) rest closed := by
  obtain ⟨folders, short⟩ := clear
  induction front generalizing here with
  | nil => rfl
  | cons name front ih =>
      have later : ∀ other ∈ front, ¬longestName < other.length :=
        fun other member => short other (List.mem_cons_of_mem _ member)
      rcases plain_cases name with rfl | rfl | ⟨-, -, long⟩ | plain
      · rw [List.cons_append, walk_dot]
        exact ih (by simpa [stops] using folders) later
      · rw [List.cons_append, walk_dots]
        exact ih (by simpa [stops] using folders) later
      · exact (short name List.mem_cons_self long).elim
      · rw [stops_cons here front plain.notDot plain.notDots] at folders
        rw [List.cons_append, walk_folder _ _ plain _ _ (folders _ List.mem_cons_self),
          reach_cons here front plain.notDot plain.notDots]
        exact ih (fun stop member => folders stop (List.mem_cons_of_mem _ member)) later

def Ends (disk : Disk) (here : Location) (names : List Bytes) (closed : Bool) (place : Place) : Prop :=
  (Clear disk here names ∧ place = .occupied (reach here names) .folder) ∨
  ∃ front last, names = front ++ [last] ∧ Clear disk here front ∧ Plain last ∧
    ((disk.get? (reach here front ++ [last]) = none ∧ place = .vacant (reach here front) last closed) ∨
    ∃ entry, disk.get? (reach here front ++ [last]) = some entry ∧ entry.isLeaf = true ∧ closed = false ∧
      place = .occupied (reach here front ++ [last]) entry)

theorem Ends.cons {name : Bytes} {next : Location} (ends : Ends disk next rest closed place)
    (clear : ∀ part, Clear disk next part → Clear disk here (name :: part))
    (leads : ∀ part, reach here (name :: part) = reach next part) :
    Ends disk here (name :: rest) closed place := by
  rcases ends with ⟨open_, rfl⟩ | ⟨front, last, rfl, open_, plain, stopped⟩
  · exact Or.inl ⟨clear rest open_, by rw [leads]⟩
  · exact Or.inr ⟨name :: front, last, rfl, clear front open_, plain, by rwa [leads]⟩

theorem ends_of_walk (linkFree : LinkFree disk)
    (arrived : disk.walk followLast links here names closed = .ok place) : Ends disk here names closed place := by
  have arrives := arrives_of_walk arrived
  clear arrived
  induction arrives with
  | home => exact Or.inl ⟨clear_nil disk _, rfl⟩
  | stay _ ih => exact ih.cons (fun _ clear => clear.cons_dot) (fun _ => rfl)
  | rise _ ih => exact ih.cons (fun _ clear => clear.cons_dots) (fun _ => rfl)
  | vacant plain found => exact Or.inr ⟨[], _, rfl, clear_nil disk _, plain, Or.inl ⟨found, rfl⟩⟩
  | folder plain found _ ih =>
      exact ih.cons (fun _ clear => clear.plain plain found)
        (fun part => reach_cons _ part plain.notDot plain.notDots)
  | link _ found _ => exact (linkFree _ _ found).elim
  | through _ found _ _ _ _ => exact (linkFree _ _ found).elim
  | leaf plain found leaf =>
      exact Or.inr ⟨[], _, rfl, clear_nil disk _, plain, Or.inr ⟨_, found, leaf, rfl, rfl⟩⟩

section Found

variable {base location folder : Location} {path : Path} {last : Bytes} {asked : Bool} (linkFree : LinkFree disk)
include linkFree

theorem clear_of_find_folder (found : disk.find base path followLast = .ok (.occupied location .folder)) :
    Clear disk (startOf base path) path.route.names ∧ location = reach (startOf base path) path.route.names := by
  rw [find_eq_walk (usable_of_find found)] at found
  rcases ends_of_walk linkFree found with ⟨clear, same⟩ | ⟨front, last, -, -, -, free | taken⟩
  · injection same with place _
    exact ⟨clear, place⟩
  · cases free.2
  · obtain ⟨entry, -, leaf, -, same⟩ := taken
    injection same with _ kind
    subst kind
    cases leaf

theorem front_of_find_vacant (found : disk.find base path followLast = .ok (.vacant folder last asked)) :
    ∃ front, path.route.names = front ++ [last] ∧ folder = reach (startOf base path) front ∧
      Clear disk (startOf base path) front ∧ Plain last ∧ disk.get? (folder ++ [last]) = none := by
  rw [find_eq_walk (usable_of_find found)] at found
  rcases ends_of_walk linkFree found with ⟨-, same⟩ | ⟨front, name, split, clear, plain, free | taken⟩
  · cases same
  · obtain ⟨absent, same⟩ := free
    injection same with sameFolder sameName
    subst sameFolder sameName
    exact ⟨front, split, rfl, clear, plain, absent⟩
  · obtain ⟨_, _, _, _, same⟩ := taken
    cases same

end Found

def Firm (disk : Disk) (locations : List Location) : Prop :=
  ∀ location ∈ locations, disk.get? location = none ∨ disk.get? location = some .folder

/-- The last name of a walk need not be there. -/
theorem walk_last_ne_missing (linkFree : LinkFree disk) {last : Bytes} (short : ¬longestName < last.length) :
    disk.walk followLast links here [last] closed ≠ .error .missing := by
  intro missing
  rcases plain_cases last with rfl | rfl | ⟨-, -, long⟩ | plain
  · rw [walk_dot, walk_nil] at missing
    cases missing
  · rw [walk_dots, walk_nil] at missing
    cases missing
  · exact short long
  · cases there : disk.get? (here ++ [last]) with
    | none =>
        rw [walk_none _ _ plain _ _ there, if_pos rfl] at missing
        cases missing
    | some entry =>
        rcases entry.folder_or_link_or_leaf with rfl | ⟨target, rfl⟩ | leaf
        · rw [walk_folder _ _ plain _ _ there, walk_nil] at missing
          cases missing
        · exact linkFree _ _ there
        · rw [walk_leaf _ _ plain _ _ there leaf] at missing
          split at missing <;> cases missing

/-- Where only folders are missing, nothing else keeps a walk from arriving. -/
theorem walk_firm (firm : Firm disk (stops here names)) (short : ∀ name ∈ names, ¬longestName < name.length) :
    (∃ place, disk.walk followLast links here names closed = .ok place) ∨
      disk.walk followLast links here names closed = .error .missing := by
  induction names generalizing here with
  | nil => exact Or.inl ⟨_, walk_nil _ _ _ _ _⟩
  | cons name rest ih =>
      have later : ∀ other ∈ rest, ¬longestName < other.length :=
        fun other member => short other (List.mem_cons_of_mem _ member)
      rcases plain_cases name with rfl | rfl | ⟨-, -, long⟩ | plain
      · rw [walk_dot]
        exact ih (by simpa [stops] using firm) later
      · rw [walk_dots]
        exact ih (by simpa [stops] using firm) later
      · exact (short name List.mem_cons_self long).elim
      · rw [stops_cons here rest plain.notDot plain.notDots] at firm
        rcases firm _ List.mem_cons_self with absent | there
        · rw [walk_none _ _ plain rest closed absent]
          by_cases last : rest = []
          · exact Or.inl ⟨_, if_pos last⟩
          · exact Or.inr (if_neg last)
        · rw [walk_folder _ _ plain rest closed there]
          exact ih (fun stop member => firm stop (List.mem_cons_of_mem _ member)) later

end Walks

end PipDriver.Disk
