import PipDriver.Locate.Pip
import PipDriver.Proofs.Components
import PipDriver.Proofs.Steps

/-!
Which pip is found. On a search path every name is looked for in all entries before the next name is, so that what is
found is the first program in the order of the names and then of the entries. Entries that come behind the others
change what is found only for a name that is wanted more.
-/

namespace PipDriver.Locate

def entriesOf (searchPath : Option Bytes) : List Path := (searchPath.map searchEntries).getD []

def Candidate (host : Host) (entries : List Path) (rank place : Nat) (path : Path) : Prop :=
  ∃ name entry, pipNames[rank]? = some name ∧ entries[place]? = some entry ∧
    path = (expandHome host entry).join (.mk name)

structure Runs (world : World) (entries : List Path) (rank place : Nat) (path : Path) : Prop where
  candidate : Candidate world.host entries rank place path
  executable : world.isExecutable path = true

structure First (world : World) (entries : List Path) (rank place : Nat) (path : Path) : Prop where
  runs : Runs world entries rank place path
  least : ∀ other spot alternative, Runs world entries other spot alternative →
    rank < other ∨ rank = other ∧ place ≤ spot

section

variable {world : World} {host : Host} {entries more : List Path} {rank place : Nat} {path : Path}

theorem Candidate.unique {other : Path} (candidate : Candidate host entries rank place path)
    (also : Candidate host entries rank place other) : path = other := by
  obtain ⟨name, entry, named, stands, rfl⟩ := candidate
  obtain ⟨same, twin, sameName, sameEntry, rfl⟩ := also
  cases named.symm.trans sameName
  cases stands.symm.trans sameEntry
  rfl

theorem mem_candidates_iff : path ∈ candidates host entries ↔ ∃ rank place, Candidate host entries rank place path := by
  simp only [candidates, List.mem_flatMap, List.mem_map]
  constructor
  · rintro ⟨name, listed, entry, among, rfl⟩
    obtain ⟨rank, named⟩ := List.mem_iff_getElem?.mp listed
    obtain ⟨place, stands⟩ := List.mem_iff_getElem?.mp among
    exact ⟨rank, place, name, entry, named, stands, rfl⟩
  · rintro ⟨rank, place, name, entry, named, stands, rfl⟩
    exact ⟨name, List.mem_of_getElem? named, entry, List.mem_of_getElem? stands, rfl⟩

theorem find?_candidates_eq_none_iff : (candidates world.host entries).find? world.isExecutable = none ↔
    ¬∃ rank place path, Runs world entries rank place path := by
  rw [List.find?_eq_none]
  constructor
  · rintro idle ⟨rank, place, path, runs⟩
    exact idle path (mem_candidates_iff.mpr ⟨rank, place, runs.candidate⟩) runs.executable
  · intro missing path among executable
    obtain ⟨rank, place, candidate⟩ := mem_candidates_iff.mp among
    exact missing ⟨rank, place, path, candidate, executable⟩

/-- The outer search stops at a name that the inner one finds, and what both have passed over cannot be run. -/
theorem first_of_find? (found : (candidates world.host entries).find? world.isExecutable = some path) :
    ∃ rank place, First world entries rank place path := by
  rw [candidates, List.find?_flatMap, List.findSome?_eq_some_iff] at found
  obtain ⟨earlier, name, later, names, found, passed⟩ := found
  rw [List.find?_map, Option.map_eq_some_iff] at found
  obtain ⟨entry, found, rfl⟩ := found
  obtain ⟨executable, before, after, split, skipped⟩ := List.find?_eq_some_iff_append.mp found
  have named : pipNames[earlier.length]? = some name := by simp [names]
  have stands : entries[before.length]? = some entry := by simp [split]
  refine ⟨earlier.length, before.length, ⟨⟨name, entry, named, stands, rfl⟩, executable⟩, ?_⟩
  rintro other spot _ ⟨⟨twin, folder, sameName, sameEntry, rfl⟩, runs⟩
  rcases Nat.lt_trichotomy other earlier.length with ahead | same | behind
  · rw [names, List.getElem?_append_left ahead] at sameName
    have idle := passed twin (List.mem_of_getElem? sameName)
    rw [List.find?_eq_none] at idle
    exact (idle _ (List.mem_map.mpr ⟨folder, List.mem_of_getElem? sameEntry, rfl⟩) runs).elim
  · subst same
    cases named.symm.trans sameName
    refine Or.inr ⟨rfl, Nat.le_of_not_lt fun ahead => ?_⟩
    rw [split, List.getElem?_append_left ahead] at sameEntry
    have idle := skipped folder (List.mem_of_getElem? sameEntry)
    simp [runs] at idle
  · exact Or.inl behind

theorem First.unique {other spot : Nat} {found : Path} (first : First world entries rank place path)
    (also : First world entries other spot found) : other = rank ∧ spot = place ∧ found = path := by
  have below := first.least other spot found also.runs
  have above := also.least rank place path first.runs
  obtain ⟨rfl, rfl⟩ : other = rank ∧ spot = place := by omega
  exact ⟨rfl, rfl, also.runs.candidate.unique first.runs.candidate⟩

theorem find?_candidates_of_runs (runs : Runs world entries rank place path) :
    ∃ found, (candidates world.host entries).find? world.isExecutable = some found := by
  rw [← Option.isSome_iff_exists, Option.isSome_iff_ne_none, ne_eq, find?_candidates_eq_none_iff]
  exact fun missing => missing ⟨rank, place, path, runs⟩

theorem find?_candidates_eq_some_iff : (candidates world.host entries).find? world.isExecutable = some path ↔
    ∃ rank place, First world entries rank place path := by
  constructor
  · exact first_of_find?
  · rintro ⟨rank, place, first⟩
    obtain ⟨found, also⟩ := find?_candidates_of_runs first.runs
    obtain ⟨other, spot, second⟩ := first_of_find? also
    rw [also, (first.unique second).2.2]

theorem candidate_append_iff : Candidate host (entries ++ more) rank place path ↔
    place < entries.length ∧ Candidate host entries rank place path ∨
      entries.length ≤ place ∧ Candidate host more rank (place - entries.length) path := by
  by_cases early : place < entries.length
  · have notLate : ¬entries.length ≤ place := by omega
    simp [Candidate, List.getElem?_append_left early, early, notLate]
  · have late : entries.length ≤ place := by omega
    simp [Candidate, List.getElem?_append_right late, early, late]

theorem Candidate.place_lt (candidate : Candidate host entries rank place path) : place < entries.length := by
  obtain ⟨name, entry, -, stands, -⟩ := candidate
  exact (List.getElem?_eq_some_iff.mp stands).1

theorem Runs.append (runs : Runs world entries rank place path) (more : List Path) :
    Runs world (entries ++ more) rank place path where
  candidate := candidate_append_iff.mpr (Or.inl ⟨runs.candidate.place_lt, runs.candidate⟩)
  executable := runs.executable

/-- With more entries behind, the same program is found, or one in them of a name that is wanted more. -/
theorem First.append (first : First world entries rank place path) (more : List Path) :
    ∃ other spot found, First world (entries ++ more) other spot found ∧
      (found = path ∨ other < rank ∧ entries.length ≤ spot) := by
  obtain ⟨found, finds⟩ := find?_candidates_of_runs (first.runs.append more)
  obtain ⟨other, spot, ahead⟩ := first_of_find? finds
  refine ⟨other, spot, found, ahead, ?_⟩
  have least := ahead.least rank place path (first.runs.append more)
  rcases candidate_append_iff.mp ahead.runs.candidate with ⟨early, candidate⟩ | ⟨late, -⟩
  · have own := first.least other spot found ⟨candidate, ahead.runs.executable⟩
    obtain ⟨rfl, rfl⟩ : other = rank ∧ spot = place := by omega
    exact Or.inl (candidate.unique first.runs.candidate)
  · have inside := first.runs.candidate.place_lt
    exact Or.inr ⟨by omega, late⟩

theorem expandHome_of_other {entry : Path} (other : entry.components.head? ≠ some (.name [tilde])) :
    expandHome host entry = entry := by
  unfold expandHome
  split
  · rename_i rest split
    rw [split] at other
    exact (other rfl).elim
  · rfl

theorem home_given (host : Host) : host.home.isEmpty = false := by
  unfold Host.home
  split
  · split
    · rfl
    · rename_i given
      simpa [Path.isEmpty] using given
  · rfl

/-- Behind the sign for the home folder the rest of an entry stands as it is. -/
theorem components_foldl_join {folder : Path} {parts : List Path.Component} (given : folder.isEmpty = false)
    (stand : ∀ part ∈ parts, ∃ field, Bytes.slash ∉ field ∧ Path.segmentComponent field = some part) :
    (parts.foldl (fun path part => path.join ⟨componentBytes part⟩) folder).components = folder.components ++ parts := by
  induction parts generalizing folder with
  | nil => simp
  | cons part rest ih =>
      rw [List.forall_mem_cons] at stand
      obtain ⟨⟨field, whole, stands⟩, others⟩ := stand
      have same : componentBytes part = field := by
        unfold Path.segmentComponent at stands
        split at stands
        · cases stands
        · split at stands
          · rename_i dots
            cases stands
            exact dots.symm
          · cases stands
            rfl
      obtain ⟨joined, there⟩ := Path.components_join_field given whole stands
      rw [List.foldl_cons, same, ih there others, joined, List.append_assoc, List.singleton_append]

theorem components_expandHome {entry : Path} {rest : List Path.Component}
    (home : entry.components = .name [tilde] :: rest) :
    (expandHome host entry).components = host.home.components ++ rest := by
  unfold expandHome
  rw [home]
  refine components_foldl_join (home_given host) fun part member => ?_
  have among : part ∈ (Text.fields Bytes.slash entry.bytes).filterMap Path.segmentComponent := by
    rw [Path.components_eq] at home
    cases begins : Path.beginning entry.bytes with
    | nil =>
        rw [begins, List.nil_append] at home
        rw [home]
        exact List.mem_cons_of_mem _ member
    | cons first others =>
        rw [begins, List.cons_append, List.cons.injEq] at home
        rw [home.1] at begins
        unfold Path.beginning at begins
        split at begins <;> cases begins
  obtain ⟨field, inside, stands⟩ := List.mem_filterMap.mp among
  exact ⟨field, Text.notMem_fields inside, stands⟩

theorem entriesOf_append (bytes more : Bytes) :
    entriesOf (some (bytes ++ colon :: more)) = searchEntries bytes ++ searchEntries more := by
  simp only [entriesOf, Option.map_some, Option.getD_some, searchEntries, Text.fields_append, List.map_append]

end

section

variable (world : World) (layout : Layout) (searchPath : Option Bytes)

theorem onSearchPath_eq_ok_iff {path : Path} : onSearchPath world searchPath = .ok path ↔
    ∃ rank place, First world (entriesOf searchPath) rank place path := by
  rw [← find?_candidates_eq_some_iff]
  simp only [onSearchPath, entriesOf]
  split
  · rename_i found finds
    simp [finds]
  · rename_i missing
    simp [missing]

theorem onSearchPath_eq_error_iff {failure : Failure} : onSearchPath world searchPath = .error failure ↔
    failure = .programMissing "pip" searchedNames ∧ ¬∃ rank place path, Runs world (entriesOf searchPath) rank place path := by
  rw [← find?_candidates_eq_none_iff]
  simp only [onSearchPath, entriesOf]
  split
  · rename_i found finds
    simp [finds]
  · rename_i missing
    simp [missing, eq_comm]

theorem pipIn_of_none_or_empty {chosen : Option Path} (open_ : chosen = none ∨ chosen = some ⟨[]⟩) :
    pipIn world layout chosen searchPath = onSearchPath world searchPath := by
  rcases open_ with rfl | rfl <;> rfl

theorem pipIn_of_given {path : Path} (given : path ≠ ⟨[]⟩) : pipIn world layout (some path) searchPath =
    if world.isFolder path then
      if world.isFile (layout.pipIn path) then .ok (layout.pipIn path)
      else .error (.programMissing "pip" (layout.pipIn path).text)
    else .ok path := by
  have named : path.isEmpty = false := by
    rw [Path.isEmpty, List.isEmpty_eq_false_iff]
    intro empty
    exact given (congrArg Path.ofBytes empty)
  simp [pipIn, Option.filter, named]

end

/-- Without a program of its own, or with an empty one, a request takes the first that runs of a search path: it fails
just if there is none, and entries behind the others change what it takes only for a name that is wanted more. A folder
is searched instead of the search path, and anything else is the program itself. -/
theorem first_program_found (world : World) (layout : Layout) :
    (∀ chosen, chosen = none ∨ chosen = some ⟨[]⟩ → ∀ searchPath,
      (∀ path, pipIn world layout chosen searchPath = .ok path ↔
        ∃ rank place, First world (entriesOf searchPath) rank place path) ∧
      (∀ failure, pipIn world layout chosen searchPath = .error failure ↔
        failure = .programMissing "pip" searchedNames ∧
          ¬∃ rank place path, Runs world (entriesOf searchPath) rank place path) ∧
      ∀ bytes more rank place path, searchPath = some bytes → First world (searchEntries bytes) rank place path →
        ∃ other spot found, pipIn world layout chosen (some (bytes ++ colon :: more)) = .ok found ∧
          First world (searchEntries bytes ++ searchEntries more) other spot found ∧
          (found = path ∨ other < rank ∧ (searchEntries bytes).length ≤ spot)) ∧
    (∀ entry : Path, entry.components.head? ≠ some (.name [tilde]) → expandHome world.host entry = entry) ∧
    (∀ (entry : Path) (rest : List Path.Component), entry.components = .name [tilde] :: rest →
      (expandHome world.host entry).components = world.host.home.components ++ rest) ∧
    ∀ path : Path, path ≠ ⟨[]⟩ →
      (world.isFolder path = true → ∀ searchPath, pipIn world layout (some path) searchPath =
        if world.isFile (layout.pipIn path) then .ok (layout.pipIn path)
        else .error (.programMissing "pip" (layout.pipIn path).text)) ∧
      (world.isFolder path = false → ∀ searchPath, pipIn world layout (some path) searchPath = .ok path) := by
  refine ⟨?_, fun entry => expandHome_of_other, fun entry rest => components_expandHome, ?_⟩
  · intro chosen open_ searchPath
    refine ⟨?_, ?_, ?_⟩
    · intro path
      rw [pipIn_of_none_or_empty world layout searchPath open_, onSearchPath_eq_ok_iff]
    · intro failure
      rw [pipIn_of_none_or_empty world layout searchPath open_, onSearchPath_eq_error_iff]
    · rintro bytes more rank place path rfl first
      obtain ⟨other, spot, found, ahead, kept⟩ := first.append (searchEntries more)
      refine ⟨other, spot, found, ?_, ahead, kept⟩
      rw [pipIn_of_none_or_empty world layout _ open_, onSearchPath_eq_ok_iff, entriesOf_append]
      exact ⟨other, spot, ahead⟩
  · intro path given
    constructor
    · intro folder searchPath
      rw [pipIn_of_given world layout searchPath given, folder, if_pos rfl]
    · intro other searchPath
      rw [pipIn_of_given world layout searchPath given, other, if_neg Bool.false_ne_true]

def crowdedPath : Bytes := "gone:a:b"

def crowdedWorld : World where
  host := { folder := ["w"] }
  disk := {
    entries := [
      (["w"], .folder), (["w", "a"], .folder), (["w", "b"], .folder), (["w", "c"], .folder),
      (["w", "a", "pip2"], .folder),
      (["w", "a", "pip"], .file { bytes := .empty, executable := true }),
      (["w", "b", "pip2"], .file { bytes := .empty }),
      (["w", "b", "pip-python"], .file { bytes := .empty, executable := true }),
      (["w", "c", "pip2"], .file { bytes := .empty, executable := true })] }

theorem first_program_found_behind :
    ∃ rank place other spot,
      First crowdedWorld (searchEntries crowdedPath) rank place "a/pip" ∧
      pipIn crowdedWorld .posix (some ⟨[]⟩) (some (crowdedPath ++ colon :: "c")) = .ok "c/pip2" ∧
      First crowdedWorld (searchEntries crowdedPath ++ searchEntries "c") other spot "c/pip2" ∧ other < rank ∧
      (∀ searchPath, pipIn crowdedWorld .posix (some "a") searchPath = .error (.programMissing "pip" "a/bin/pip")) ∧
      ∀ searchPath, pipIn crowdedWorld .posix (some "gone") searchPath = .ok "gone" := by
  obtain ⟨searched, -, -, given⟩ := first_program_found crowdedWorld .posix
  obtain ⟨accepted, -, grown⟩ := searched (some ⟨[]⟩) (Or.inr rfl) (some crowdedPath)
  obtain ⟨rank, place, first⟩ := (accepted "a/pip").mp (ok_of_toOption (by decide +kernel))
  obtain ⟨other, spot, found, finds, ahead, kept⟩ := grown crowdedPath "c" rank place "a/pip" rfl first
  have last : pipIn crowdedWorld .posix (some ⟨[]⟩) (some (crowdedPath ++ colon :: "c")) = .ok "c/pip2" :=
    ok_of_toOption (by decide +kernel)
  cases finds.symm.trans last
  have different : ("c/pip2" : Path) ≠ "a/pip" := by decide
  refine ⟨rank, place, other, spot, first, last, ahead, (kept.resolve_left different).1, ?_, ?_⟩
  · intro searchPath
    rw [(given "a" (by decide)).1 (by decide +kernel) searchPath, if_neg (by decide +kernel)]
    rfl
  · exact (given "gone" (by decide)).2 (by decide +kernel)

/-- An entry that is called like the sign for the home folder is not searched itself. -/
theorem program_below_tilde_missed :
    let world : World := {
      host := { folder := ["w"], environment := [("HOME", "/w/home")] }
      disk := {
        entries := [
          (["w"], .folder), (["w", "~"], .folder),
          (["w", "~", "pip"], .file { bytes := .empty, executable := true })] } }
    ("~" : Path) ∈ searchEntries (Text.encoded ['~']) ∧ ("pip" : Text) ∈ pipNames ∧
      world.isExecutable (("~" : Path).join "pip") = true ∧
      pipIn world .posix none (some (Text.encoded ['~'])) = .error (.programMissing "pip" searchedNames) := by
  intro world
  refine ⟨by decide, by decide, by decide +kernel, ?_⟩
  rw [pipIn_of_none_or_empty world .posix (some (Text.encoded ['~'])) (Or.inl rfl)]
  decide +kernel

end PipDriver.Locate
