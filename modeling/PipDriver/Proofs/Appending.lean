import PipDriver.Process.Basic
import PipDriver.Proofs.Ancestry
import PipDriver.Proofs.Plans
import PipDriver.Proofs.Preparation

/-!
The check of a log file against opening it. The check looks at what is at the path and at the folder above it, and
opens nothing, so it passes some paths where no file can be opened; what it refuses can never be opened.
-/

namespace PipDriver

open Bytes (dot)

open LogFile (folderOf)

def Path.EndsIdle (path : Path) : Prop := path.route.closed = true ∨ path.route.names.getLast? = some [dot]

namespace Disk

section Fronts

variable {disk : Disk} {mode asked : Bool} {links left : Nat} {here location : Location} {front more : List Bytes}
  {place : Place}

structure Enters (disk : Disk) (links : Nat) (here : Location) (front : List Bytes) (left : Nat)
    (location : Location) : Prop where
  ends : ∀ asked, disk.walk true links here front asked = .ok (.occupied location .folder)
  onward : ∀ mode more asked, more ≠ [] →
    disk.walk mode links here (front ++ more) asked = disk.walk mode left location more asked

structure Bars (disk : Disk) (links : Nat) (here : Location) (front : List Bytes) : Prop where
  ends : ∀ asked location, disk.walk true links here front asked ≠ .ok (.occupied location .folder)
  onward : ∀ mode more asked place, more ≠ [] → disk.walk mode links here (front ++ more) asked ≠ .ok place

def Settled (disk : Disk) (links : Nat) (here : Location) (front : List Bytes) : Prop :=
  (∃ left location, disk.Enters links here front left location) ∨ disk.Bars links here front

/-- What holds of the names behind the first one holds of all of them where walks pass the first one. -/
theorem Settled.of_passed {fewer : Nat} {next : Location} {rest : List Bytes} (settled : disk.Settled fewer next rest)
    (ends : ∀ asked, ∃ also, disk.walk true links here front asked = disk.walk true fewer next rest also)
    (onward : ∀ mode more asked, more ≠ [] →
      disk.walk mode links here (front ++ more) asked = disk.walk mode fewer next (rest ++ more) asked) :
    disk.Settled links here front := by
  rcases settled with ⟨left, location, enters⟩ | bars
  · refine Or.inl ⟨left, location, fun asked => ?_, fun mode more asked further => ?_⟩
    · obtain ⟨also, same⟩ := ends asked
      rw [same, enters.ends]
    · rw [onward mode more asked further, enters.onward mode more asked further]
  · refine Or.inr ⟨fun asked location => ?_, fun mode more asked place further => ?_⟩
    · obtain ⟨also, same⟩ := ends asked
      rw [same]
      exact bars.ends also location
    · rw [onward mode more asked further]
      exact bars.onward mode more asked place further

section Named

variable {name target : Bytes} {rest : List Bytes} {entry : Entry} (plain : Plain name)
include plain

theorem bars_of_none (found : disk.get? (here ++ [name]) = none) : disk.Bars links here (name :: rest) := by
  refine ⟨fun asked location => ?_, fun mode more asked place further => ?_⟩
  · rw [walk_none _ _ plain _ _ found]
    split <;> simp
  · simp [walk_none _ _ plain _ _ found, further]

theorem bars_of_leaf (found : disk.get? (here ++ [name]) = some entry) (leaf : entry.isLeaf = true) :
    disk.Bars links here (name :: rest) := by
  refine ⟨fun asked location => ?_, fun mode more asked place further => ?_⟩
  · rw [walk_leaf _ _ plain _ _ found leaf]
    split
    · rintro ⟨⟩
      cases leaf
    · simp
  · simp [walk_leaf _ _ plain _ _ found leaf, further]

/-- A link is passed with one link fewer, and the names of its target come in front of those left. -/
theorem settled_of_link (found : disk.get? (here ++ [name]) = some (.link target))
    (below : ∀ fewer next names, links = fewer + 1 → disk.Settled fewer next names) :
    disk.Settled links here (name :: rest) := by
  by_cases passes : ∃ fewer, links = fewer + 1 ∧ target ≠ []
  · obtain ⟨fewer, rfl, given⟩ := passes
    let route := Route.ofBytes target
    have beyond := below fewer (if route.absolute then [] else here) (route.names ++ rest) rfl
    refine beyond.of_passed (fun asked => ⟨asked || (rest = [] && route.closed), ?_⟩) fun mode more asked further => ?_
    · rw [walk_link _ _ plain _ _ found, if_neg (by simp), passLink_succ _ _ _ _ _ _ given]
    · rw [List.cons_append, walk_link _ _ plain _ _ found, if_neg (by simp [further]),
        passLink_succ _ _ _ _ _ _ given, List.append_assoc]
      simp [further, route]
  · have stopped {mode asked} {more : List Bytes} {place : Place} :
        disk.passLink mode links here target more asked ≠ .ok place :=
      fun passed => passes (passLink_ok passed)
    refine Or.inr ⟨fun asked location => ?_, fun mode more asked place further => ?_⟩
    · rw [walk_link _ _ plain _ _ found, if_neg (by simp)]
      exact stopped
    · rw [List.cons_append, walk_link _ _ plain _ _ found, if_neg (by simp [further])]
      exact stopped

end Named

theorem settled (disk : Disk) (links : Nat) (here : Location) (front : List Bytes) : disk.Settled links here front := by
  -- What a walk asks for at its end is of no account here, so any will do.
  induction links, here, front, false using walk_induction with
  | home links here _ => exact Or.inl ⟨links, here, fun _ => walk_nil _ _ _ _ _, fun _ _ _ _ => rfl⟩
  | step links here name rest _ onward below =>
      rcases plain_cases name with rfl | rfl | ⟨notDot, notDots, long⟩ | plain
      · exact (onward here).of_passed (fun asked => ⟨asked, walk_dot _ _ _ _ _ _⟩) fun _ _ _ _ => walk_dot _ _ _ _ _ _
      · exact (onward here.dropLast).of_passed (fun asked => ⟨asked, walk_dots _ _ _ _ _ _⟩)
          fun _ _ _ _ => walk_dots _ _ _ _ _ _
      · refine Or.inr ⟨fun asked location => ?_, fun mode more asked place _ => ?_⟩
        · simp [walk_long _ _ _ _ _ _ notDot notDots long]
        · simp [walk_long _ _ _ _ _ _ notDot notDots long]
      · cases found : disk.get? (here ++ [name]) with
        | none => exact Or.inr (bars_of_none plain found)
        | some there =>
            rcases there.folder_or_link_or_leaf with rfl | ⟨target, rfl⟩ | leaf
            · exact (onward (here ++ [name])).of_passed (fun asked => ⟨asked, walk_folder _ _ plain _ _ found⟩)
                fun _ _ _ _ => walk_folder _ _ plain _ _ found
            · exact settled_of_link plain found fun fewer next names => below fewer next names false
            · exact Or.inr (bars_of_leaf plain found leaf)

theorem enters_of_onward (further : more ≠ []) (arrived : disk.walk mode links here (front ++ more) asked = .ok place) :
    ∃ left location, disk.Enters links here front left location :=
  (disk.settled links here front).resolve_right fun bars => bars.onward _ _ _ _ further arrived

theorem enters_of_ends (arrived : disk.walk true links here front asked = .ok (.occupied location .folder)) :
    ∃ left location, disk.Enters links here front left location :=
  (disk.settled links here front).resolve_right fun bars => bars.ends _ _ arrived

/-- Names that lead nowhere are passed over. -/
theorem walk_idle (idle : core front = []) :
    disk.walk mode links here (front ++ more) asked = disk.walk mode links here more asked := by
  induction front with
  | nil => rfl
  | cons name rest ih =>
      obtain ⟨alone, idle⟩ : name = [dot] ∧ core rest = [] := by
        by_cases alone : name = [dot]
        · exact ⟨alone, by simpa [core, alone] using idle⟩
        · simp [core, alone] at idle
      rw [alone, List.cons_append, walk_dot, ih idle]

end Fronts

section Ends

variable {disk : Disk} {mode closed asked : Bool} {links : Nat} {here folder location : Location} {names : List Bytes}
  {last target : Bytes} {place : Place}

/-- Where a path asks for a folder and nothing is there, the place tells that it does. -/
theorem Arrives.asks (closes : closed = true)
    (arrives : Arrives disk mode links here names closed (.vacant folder last asked)) : asked = true := by
  generalize same : Place.vacant folder last asked = place at arrives
  induction arrives with
  | home | link | leaf => cases same
  | stay _ ih | rise _ ih | folder _ _ _ ih => exact ih closes same
  | vacant _ _ =>
      injection same with _ _ same
      exact same.trans closes
  | through _ _ _ _ _ ih => exact ih (by simp [closes]) same

theorem Arrives.folder_of_dot (idle : names.getLast? = some [dot])
    (arrives : Arrives disk mode links here names closed place) : ∃ location, place = .occupied location .folder := by
  have behind {name : Bytes} {rest : List Bytes} (proper : name ≠ [dot])
      (ends : (name :: rest).getLast? = some [dot]) : rest.getLast? = some [dot] := by
    cases rest with
    | nil => exact (proper (by simpa using ends)).elim
    | cons second others => simpa using ends
  induction arrives with
  | home => cases idle
  | @stay _ here rest _ _ arrives ih =>
      by_cases last : rest = []
      · subst last
        cases arrives
        exact ⟨here, rfl⟩
      · exact ih (by rwa [List.getLast?_cons_of_ne_nil last] at idle)
  | rise _ ih => exact ih (behind (by decide) idle)
  | vacant plain _ | link plain _ _ | leaf plain _ _ => cases behind plain.notDot idle
  | folder plain _ _ ih => exact ih (behind plain.notDot idle)
  | through plain _ _ _ _ ih => exact ih (by simp [List.getLast?_append, behind plain.notDot idle])

theorem Arrives.not_link (follows : mode = true)
    (arrives : Arrives disk mode links here names closed (.occupied location (.link target))) : False := by
  generalize same : Place.occupied location (Entry.link target) = place at arrives
  induction arrives with
  | home | vacant => cases same
  | stay _ ih | rise _ ih | folder _ _ _ ih | through _ _ _ _ _ ih => exact ih same
  | link _ _ noFollow => simp [follows] at noFollow
  | leaf _ _ leaf =>
      injection same with _ same
      subst same
      cases leaf

end Ends

section Above

variable {disk : Disk} {base location : Location} {path parent : Path} {mode : Bool} {place : Place} {target : Bytes}

theorem usable_of_missing (given : ¬path.isEmpty = true) (missing : disk.entryAt base path = .error .missing) :
    pathFault? path = none := by
  unfold entryAt find at missing
  cases faulty : pathFault? path with
  | none => rfl
  | some fault =>
      rw [faulty] at missing
      cases missing
      unfold pathFault? at faulty
      split at faulty
      · cases faulty
      · simp at faulty

theorem isFolder_eq_true_iff : disk.isFolder base path = true ↔
    ∃ location, disk.find base path = .ok (.occupied location .folder) := by
  rw [← entryAt_eq_ok_iff]
  unfold isFolder
  split <;> simp_all

/-- The folder for a new file is there just if the names of the parent lead into one. -/
theorem isFolder_folderOf_iff (usable : pathFault? path = none) (above : path.parent? = some parent) :
    disk.isFolder base (folderOf path) = true ↔
      ∃ left location, disk.Enters mostLinks (startOf base path) parent.route.names left location := by
  have is := Path.isParent_of_parent? above
  rw [isFolder_eq_true_iff]
  simp only [folderOf, above]
  split
  · rename_i empty
    have nameless : parent.route.names = [] := by
      have bare : parent.bytes = [] := by simpa [Path.isEmpty] using empty
      simp [Path.route, Route.ofBytes, bare, Text.fields]
    have here : disk.find base "." = .ok (.occupied base .folder) := by
      rw [find_eq_walk rfl]
      exact (walk_dot _ _ _ _ _ _).trans (walk_nil _ _ _ _ _)
    rw [nameless]
    exact iff_of_true ⟨base, here⟩ (enters_of_ends (walk_nil disk true mostLinks (startOf base path) false))
  · rename_i given
    have start : startOf base parent = startOf base path := by rw [startOf, startOf, is.absolute]
    rw [find_eq_walk (Path.usable_of_prefix is.starts usable given), start]
    constructor
    · rintro ⟨location, arrived⟩
      exact enters_of_ends arrived
    · rintro ⟨left, location, enters⟩
      exact ⟨location, enters.ends _⟩

/-- Whatever is at a path that is no folder, the folder above it is there. -/
theorem isFolder_folderOf (found : disk.find base path mode = .ok place)
    (proper : ∀ location, place ≠ .occupied location .folder) : disk.isFolder base (folderOf path) = true := by
  have usable := usable_of_find found
  have walked := (find_eq_walk usable mode).symm.trans found
  have named : core path.route.names ≠ [] := by
    intro idle
    rw [← List.append_nil path.route.names, walk_idle idle, walk_nil] at walked
    exact proper _ (Except.ok.inj walked).symm
  cases above : path.parent? with
  | none => exact (named (Path.core_of_no_parent above)).elim
  | some parent =>
      obtain ⟨tail, names, further⟩ := Path.parent_tail above
      have more : tail ≠ [] := by
        rintro rfl
        exact further named rfl
      rw [names] at walked
      exact (isFolder_folderOf_iff usable above).mpr (enters_of_onward more walked)

/-- The names on a path behind those of its parent: one that leads somewhere, and dots before it. -/
theorem parent_last (named : core path.route.names ≠ []) (whole : ¬path.EndsIdle)
    (above : path.parent? = some parent) : ∃ idle last, core idle = [] ∧ last ≠ [dot] ∧
      path.route.names = parent.route.names ++ (idle ++ [last]) := by
  obtain ⟨tail, names, further⟩ := Path.parent_tail above
  have more : tail ≠ [] := by
    rintro rfl
    exact further named rfl
  obtain ⟨idle, last, rfl⟩ := (List.eq_nil_or_concat' tail).resolve_left more
  have proper : last ≠ [dot] := by
    rintro rfl
    exact whole (Or.inr (by simp [names, List.getLast?_append]))
  refine ⟨idle, last, ?_, proper, names⟩
  have parted (first second : List Bytes) : core (first ++ second) = core first ++ core second :=
    List.filter_append _ _
  have shorter := congrArg List.length (Path.isParent_of_parent? above).names
  rw [names, parted, parted, show core [last] = [last] by simp [core, proper]] at shorter
  simp only [List.length_dropLast, List.length_append, List.length_singleton] at shorter
  exact List.eq_nil_of_length_eq_zero (by omega)

/-- Where the folder is there and a path names nothing, a file can be made, or a link is in its place. -/
theorem vacant_or_link (given : ¬path.isEmpty = true) (whole : ¬path.EndsIdle)
    (missing : disk.entryAt base path = .error .missing) (there : disk.isFolder base (folderOf path) = true) :
    (∃ above name, disk.find base path = .ok (.vacant above name false)) ∨
      ∃ location target, disk.find base path false = .ok (.occupied location (.link target)) := by
  have usable := usable_of_missing given missing
  have unclosed : path.route.closed = false := by
    rw [← Bool.not_eq_true]
    exact fun closed => whole (Or.inl closed)
  have named : core path.route.names ≠ [] := by
    intro idle
    have here : disk.find base path = .ok (.occupied (startOf base path) .folder) := by
      rw [find_eq_walk usable, ← List.append_nil path.route.names, walk_idle idle, walk_nil]
    rw [entryAt, here] at missing
    cases missing
  cases above : path.parent? with
  | none => exact (named (Path.core_of_no_parent above)).elim
  | some parent =>
      obtain ⟨left, location, enters⟩ := (isFolder_folderOf_iff usable above).mp there
      obtain ⟨idle, last, dots, proper, names⟩ := parent_last named whole above
      have walked (mode : Bool) : disk.find base path mode = disk.walk mode left location [last] false := by
        rw [find_eq_walk usable, names, enters.onward _ _ _ (by simp), walk_idle dots, unclosed]
      rw [entryAt, walked] at missing
      rw [walked, walked]
      rcases plain_cases last with alone | rfl | ⟨notDot, notDots, long⟩ | plain
      · exact (proper alone).elim
      · simp [walk_dots] at missing
      · simp [walk_long _ _ _ _ _ _ notDot notDots long] at missing
      · cases found : disk.get? (location ++ [last]) with
        | none => exact Or.inl ⟨location, last, by rw [walk_none _ _ plain _ _ found, if_pos rfl]⟩
        | some entry =>
            rcases entry.folder_or_link_or_leaf with rfl | ⟨target, rfl⟩ | leaf
            · simp [walk_folder _ _ plain _ _ found] at missing
            · exact Or.inr ⟨location ++ [last], target, by simp [walk_link _ _ plain _ _ found]⟩
            · simp [walk_leaf _ _ plain _ _ found leaf] at missing

end Above

end Disk

def Opening.appending : Opening := { writes := true, appends := true, makes := true }

def Entry.takesText (channels : Channels) : Entry → Bool
  | .file _ => true
  | .device .empty => true
  | .device (.channel number) => (channels.lookup number).isSome
  | .folder => false
  | .link _ => false

namespace World

open Disk

def appends (world : World) (channels : Channels) (path : Path) : Bool :=
  let machine : Machine := { disk := world.disk, programs := [], accounts := [], groups := [] }
  (machine.openPath channels world.host.folder path .appending).isOk

/-- What the check of a log file passes although no file can be opened there. -/
inductive Overlooks (world : World) (channels : Channels) (path : Path) : Prop
  /-- Nothing is there, and a folder is asked for. -/
  | unfinished : path.EndsIdle → world.disk.entryAt world.host.folder path = .error .missing →
      world.isFolder (folderOf path) = true → Overlooks world channels path
  /-- A link is there, to where a folder is missing or asked for. -/
  | dangling {location : Location} {target : Bytes} :
      world.disk.find world.host.folder path false = .ok (.occupied location (.link target)) →
      (world.disk.find world.host.folder path = .error .missing ∨
        ∃ above name, world.disk.find world.host.folder path = .ok (.vacant above name true)) →
      Overlooks world channels path
  /-- It stands for a channel that the process does not have. -/
  | shut {number : Nat} : world.disk.entryAt world.host.folder path = .ok (.device (.channel number)) →
      channels.lookup number = none → Overlooks world channels path

section

variable {world : World} {channels : Channels} {path : Path}

theorem appends_of_entryAt {entry : Entry} (there : world.disk.entryAt world.host.folder path = .ok entry) :
    world.appends channels path = entry.takesText channels := by
  obtain ⟨location, found⟩ := entryAt_eq_ok_iff.mp there
  simp only [appends, Machine.openPath, found]
  cases entry with
  | file file => rfl
  | folder | link target => rfl
  | device device =>
      cases device with
      | empty => rfl
      | channel number =>
          simp only [Entry.takesText]
          cases channels.lookup number <;> rfl

theorem appends_of_vacant {above : Location} {name : Bytes} {asked : Bool}
    (found : world.disk.find world.host.folder path = .ok (.vacant above name asked)) :
    world.appends channels path = !asked := by
  simp only [appends, Machine.openPath, found]
  cases asked <;> rfl

theorem appends_of_fault {fault : Fault} (found : world.disk.find world.host.folder path = .error fault) :
    world.appends channels path = false := by
  simp only [appends, Machine.openPath, found]
  rfl

theorem check_of_entryAt {entry : Entry} (there : world.disk.entryAt world.host.folder path = .ok entry) :
    LogFile.check world path = .ok () ↔ entry ≠ .folder := by
  have given : path.isEmpty = false := by
    rw [← Bool.not_eq_true]
    intro empty
    obtain ⟨location, found⟩ := entryAt_eq_ok_iff.mp there
    exact (Path.usable_iff.mp (usable_of_find found)).2.1 (by simpa [Path.isEmpty] using empty)
  simp only [LogFile.check, given, there]
  cases entry <;> simp

theorem check_of_missing (missing : world.disk.entryAt world.host.folder path = .error .missing) :
    LogFile.check world path = .ok () ↔ ¬path.isEmpty = true ∧ world.isFolder (folderOf path) = true := by
  unfold LogFile.check
  by_cases empty : path.isEmpty = true
  · simp [empty]
  · cases world.isFolder (folderOf path) <;> simp [empty, missing]

theorem check_of_fault {fault : Fault} (other : fault ≠ .missing)
    (refused : world.disk.entryAt world.host.folder path = .error fault) :
    LogFile.check world path ≠ .ok () := by
  unfold LogFile.check
  split
  · simp
  · simp [refused]

theorem given_of_find {mode : Bool} {place : Place} (found : world.disk.find world.host.folder path mode = .ok place) :
    ¬path.isEmpty = true := by
  simpa [Path.isEmpty] using (Path.usable_iff.mp (usable_of_find found)).2.1

theorem entryAt_of_vacant {above : Location} {name : Bytes} {asked : Bool}
    (found : world.disk.find world.host.folder path = .ok (.vacant above name asked)) :
    world.disk.entryAt world.host.folder path = .error .missing := by
  rw [entryAt, found]

theorem entryAt_of_fault {fault : Fault} (found : world.disk.find world.host.folder path = .error fault) :
    world.disk.entryAt world.host.folder path = .error fault := by
  rw [entryAt, found]

theorem check_of_appends (opens : world.appends channels path = true) : LogFile.check world path = .ok () := by
  cases found : world.disk.find world.host.folder path with
  | error fault => simp [appends_of_fault found] at opens
  | ok place =>
      cases place with
      | occupied location entry =>
          have there := entryAt_eq_ok_iff.mpr ⟨location, found⟩
          rw [appends_of_entryAt there] at opens
          refine (check_of_entryAt there).mpr ?_
          rintro rfl
          cases opens
      | vacant above name asked =>
          exact (check_of_missing (entryAt_of_vacant found)).mpr
            ⟨given_of_find found, isFolder_folderOf found (by simp)⟩

theorem check_of_overlooks (overlooked : Overlooks world channels path) : LogFile.check world path = .ok () := by
  cases overlooked with
  | unfinished idle missing there =>
      refine (check_of_missing missing).mpr ⟨fun empty => ?_, there⟩
      obtain ⟨bytes⟩ := path
      obtain rfl : bytes = [] := by simpa [Path.isEmpty] using empty
      exact absurd idle (by simp [Path.EndsIdle, Path.route, Route.ofBytes, Text.fields, Bytes.endsWith])
  | dangling link nowhere =>
      have missing : world.disk.entryAt world.host.folder path = .error .missing := by
        rcases nowhere with lost | ⟨above, name, vacant⟩
        · exact entryAt_of_fault lost
        · exact entryAt_of_vacant vacant
      exact (check_of_missing missing).mpr ⟨given_of_find link, isFolder_folderOf link (by simp)⟩
  | shut there _ => exact (check_of_entryAt there).mpr (by simp)

theorem not_appends_of_overlooks (overlooked : Overlooks world channels path) :
    world.appends channels path = false := by
  cases overlooked with
  | unfinished idle missing _ =>
      cases found : world.disk.find world.host.folder path with
      | error fault => exact appends_of_fault found
      | ok place =>
          cases place with
          | occupied location entry => cases missing.symm.trans (entryAt_eq_ok_iff.mpr ⟨location, found⟩)
          | vacant above name asked =>
              rcases idle with closed | ends
              · simp [appends_of_vacant found, (arrives_of_find found).asks closed]
              · obtain ⟨location, folder⟩ := (arrives_of_find found).folder_of_dot ends
                cases folder
  | dangling _ nowhere =>
      rcases nowhere with lost | ⟨above, name, vacant⟩
      · exact appends_of_fault lost
      · exact appends_of_vacant vacant
  | shut there none => simp [appends_of_entryAt there, Entry.takesText, none]

/-- What passes the check names something else than a folder, or nothing in a folder. -/
theorem appends_or_overlooks (passed : LogFile.check world path = .ok ()) :
    world.appends channels path = true ∨ Overlooks world channels path := by
  -- Where nothing is found the folder above is there, and the way from there is the last name.
  have absent (missing : world.disk.entryAt world.host.folder path = .error .missing)
      (nowhere : world.disk.find world.host.folder path = .error .missing ∨
        ∃ above name, world.disk.find world.host.folder path = .ok (.vacant above name true)) :
      Overlooks world channels path := by
    obtain ⟨given, there⟩ := (check_of_missing missing).mp passed
    by_cases idle : path.EndsIdle
    · exact .unfinished idle missing there
    · rcases vacant_or_link given idle missing there with ⟨above, name, free⟩ | ⟨location, target, link⟩
      · rcases nowhere with lost | ⟨_, _, vacant⟩
        · cases free.symm.trans lost
        · cases free.symm.trans vacant
      · exact .dangling link nowhere
  cases found : world.disk.find world.host.folder path with
  | error fault =>
      have refused := entryAt_of_fault found
      by_cases missing : fault = .missing
      · subst missing
        exact Or.inr (absent refused (Or.inl found))
      · exact (check_of_fault missing refused passed).elim
  | ok place =>
      cases place with
      | vacant above name asked =>
          cases asked with
          | false => exact Or.inl (appends_of_vacant found)
          | true => exact Or.inr (absent (entryAt_of_vacant found) (Or.inr ⟨above, name, found⟩))
      | occupied location entry =>
          have there := entryAt_eq_ok_iff.mpr ⟨location, found⟩
          have proper := (check_of_entryAt there).mp passed
          rw [appends_of_entryAt there]
          cases entry with
          | file _ => exact Or.inl rfl
          | device device =>
              cases device with
              | empty => exact Or.inl rfl
              | channel number =>
                  simp only [Entry.takesText, Option.isSome_iff_ne_none]
                  exact (em _).symm.imp_right (.shut there)
          | folder => exact (proper rfl).elim
          | link target => exact ((arrives_of_find found).not_link rfl).elim

end

end World

namespace Pip

variable {services : Services} {world : World} {path : Path}

theorem install_of_unplanned {request : InstallRequest} (unplanned : ∀ plan, request.plan world ≠ .ok plan) :
    ∃ failure, install services request world = (.error failure, world) := by
  rw [install_apply]
  cases prepared : prepareInstall services request world with
  | error failure => exact ⟨failure, rfl⟩
  | ok ready => exact (unplanned _ (prepared_install services world prepared).2.2).elim

theorem uninstall_of_unplanned {request : UninstallRequest} (unplanned : ∀ plan, request.plan world ≠ .ok plan) :
    ∃ failure, uninstall services request world = (.error failure, world) := by
  rw [uninstall_apply]
  cases prepared : prepareUninstall services request world with
  | error failure => exact ⟨failure, rfl⟩
  | ok ready => exact (unplanned _ (prepared_uninstall services world prepared).2).elim

end Pip

theorem Plan.check_of_log {world : World} {leading trailing : List Tokens} {source : Option Source} {plan : Plan}
    {log : Option Path} {path : Path} (made : ofParts leading trailing source = .ok plan) (given : log = some path)
    (among : Tokens.log world log ∈ trailing) : LogFile.check world path = .ok () := by
  subst given
  obtain ⟨tokens, said, -⟩ := mem_trailing made among
  simp only [Tokens.log] at said
  split at said
  · assumption
  · cases said

theorem InstallRequest.check_of_plan {world : World} {request : InstallRequest} {plan : Plan} {path : Path}
    (planned : request.plan world = .ok plan) (given : request.log = some path) :
    LogFile.check world path = .ok () := by
  unfold InstallRequest.plan at planned
  split at planned
  · exact Plan.check_of_log planned given (by simp [trailingParts])
  · cases planned

theorem UninstallRequest.check_of_plan {world : World} {request : UninstallRequest} {plan : Plan} {path : Path}
    (planned : request.plan world = .ok plan) (given : request.log = some path) :
    LogFile.check world path = .ok () := by
  unfold UninstallRequest.plan at planned
  split at planned
  · exact Plan.check_of_log planned given (by simp [trailingParts])
  · cases planned

/-- The check of a log file passes just what can be opened, and what it overlooks. A call whose log file it does not
pass ends there, with nothing changed. -/
theorem log_check_against_opening (world : World) (channels : Channels) (path : Path) :
    (LogFile.check world path = .ok () ↔
      world.appends channels path = true ∨ world.Overlooks channels path) ∧
    (world.Overlooks channels path → world.appends channels path = false) ∧
    (LogFile.check world path ≠ .ok () → ∀ services,
      (∀ request : InstallRequest, request.log = some path →
        ∃ failure, Pip.install services request world = (.error failure, world)) ∧
      ∀ request : UninstallRequest, request.log = some path →
        ∃ failure, Pip.uninstall services request world = (.error failure, world)) := by
  refine ⟨⟨World.appends_or_overlooks, ?_⟩, World.not_appends_of_overlooks, ?_⟩
  · rintro (opens | overlooked)
    · exact World.check_of_appends opens
    · exact World.check_of_overlooks overlooked
  · intro refused services
    constructor
    · exact fun request given =>
        Pip.install_of_unplanned fun plan planned => refused (request.check_of_plan planned given)
    · exact fun request given =>
        Pip.uninstall_of_unplanned fun plan planned => refused (request.check_of_plan planned given)

def strayLink : World := { disk := ⟨[([("l" : Bytes)], .link "nowhere/x")]⟩, host := { folder := [] } }

theorem log_check_against_opening_stray :
    (strayLink.Overlooks [] "l" ∧ LogFile.check strayLink "l" = .ok () ∧ strayLink.appends [] "l" = false) ∧
    LogFile.check strayLink "l/x" = .error .noParent ∧
    ∀ services, ∃ failure, Pip.install services { packages := some (.joined "six"), log := some "l/x" } strayLink =
      (.error failure, strayLink) := by
  have link : strayLink.disk.find [] "l" false = .ok (.occupied ["l"] (.link "nowhere/x")) := rfl
  have lost : strayLink.disk.find [] "l" = .error .missing := rfl
  have overlooked : strayLink.Overlooks [] "l" := .dangling link (Or.inl lost)
  have refused : LogFile.check strayLink "l/x" = .error .noParent := by decide +kernel
  obtain ⟨passes, shut, -⟩ := log_check_against_opening strayLink [] "l"
  obtain ⟨-, -, ends⟩ := log_check_against_opening strayLink [] "l/x"
  refine ⟨⟨overlooked, passes.mpr (Or.inr overlooked), shut overlooked⟩, refused, fun services => ?_⟩
  exact (ends (by rw [refused]; simp) services).1 _ rfl

/-- No file can be opened at a path that asks for a folder, and the check passes it. -/
theorem log_check_passes_slash :
    ¬∀ (world : World) (channels : Channels) (path : Path),
      LogFile.check world path = .ok () ↔ world.appends channels path = true := by
  intro sharp
  let world : World := { disk := {}, host := { folder := [] } }
  have passes : LogFile.check world "x/" = .ok () := by decide +kernel
  have opens := (sharp world [(0, 0), (1, 1), (2, 2)] "x/").mp passes
  have refused : world.appends [(0, 0), (1, 1), (2, 2)] "x/" = false := by decide +kernel
  cases refused.symm.trans opens

end PipDriver
