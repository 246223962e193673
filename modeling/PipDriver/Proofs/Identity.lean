import PipDriver.Host.Services
import PipDriver.Host.Standard
import PipDriver.Proofs.Operands
import PipDriver.Proofs.Parents
import PipDriver.Proofs.Preparation

/-!
Whom a call names to the programs that change owners and users, as these read it. The text that is given for the user is
taken for the user just if it does not begin like an option, whatever options the programs know. Otherwise there is no
operand for the user of the copy, and the run is that of the administrator, or of whom the line for the shell or its
letter is taken for.
-/

namespace PipDriver

open Tools

theorem Temporary.isAbsolute_pathIn (world : World) (folder : Path) (name : Bytes) :
    (pathIn world folder name).isAbsolute = true := by
  by_cases absolute : (Path.ofBytes name).isAbsolute = true
  · simp [pathIn, Path.join, absolute]
  · exact (Path.route_join_relative _ (Bool.not_eq_true _ ▸ absolute)).2.trans (world.absolute_route folder)

theorem Path.isDashed_of_isAbsolute {path : Path} (absolute : path.isAbsolute = true) :
    path.bytes.bytewise.isDashed = false := by
  obtain ⟨rest, same⟩ := List.isPrefixOf_iff_prefix.mp absolute
  rw [← same]
  exact Text.isDashed_cons (by decide) (Bytes.bytewise rest)

namespace OptionLetters

def TakesLine (letters : OptionLetters) : Prop := 's' ∈ letters.valued ∧ 'c' ∈ letters.valued

variable {letters : OptionLetters} {user line first second : Text} {reading : OptionReading}

theorem operands_of_single (accepted : letters.read [first] = .ok reading) :
    reading.operands = [] ∨ (first.isDashed = false ∧ reading.operands = [first]) := by
  cases dashed : first.isDashed with
  | false =>
      rw [read_operands (by simpa using dashed)] at accepted
      cases accepted
      exact Or.inr ⟨rfl, rfl⟩
  | true =>
      refine Or.inl ?_
      by_cases single : first = ['-', '-']
      · rw [single, read_behind_dashes] at accepted
        cases accepted
        rfl
      · rcases read_dashed dashed single accepted with none | ⟨more, behind, rfl | ⟨value, taken⟩, read, same⟩
        · exact none
        · cases read
          exact same
        · cases taken

theorem operands_of_dashed (dashed : first.isDashed = true) (accepted : letters.read [first, second] = .ok reading) :
    reading.operands = [] ∨ reading.operands = [second] := by
  by_cases single : first = ['-', '-']
  · rw [single, read_behind_dashes] at accepted
    cases accepted
    exact Or.inr rfl
  · rcases read_dashed dashed single accepted with none | ⟨more, behind, rfl | ⟨value, taken⟩, read, same⟩
    · exact Or.inl none
    · rw [same]
      exact (operands_of_single read).imp_right And.right
    · obtain ⟨-, rfl⟩ := List.cons.inj taken
      cases read
      exact Or.inl same

theorem read_shell (takes : letters.TakesLine) (words : List Text) : letters.read ("-s" :: "/bin/sh" :: words) =
    (letters.read words).map (·.withOption (.value 's' "/bin/sh")) :=
  read_valued takes.1 (by decide) _ _

theorem read_line (takes : letters.TakesLine) (line : Text) :
    letters.read ["-c", line] = .ok { options := [.value 'c' line] } :=
  (read_valued takes.2 (by decide) line []).trans rfl

theorem read_user (takes : letters.TakesLine) (plain : user.isDashed = false) :
    letters.read ["-s", "/bin/sh", user, "-c", line] =
      .ok { options := [.value 's' "/bin/sh", .value 'c' line], operands := [user] } := by
  rw [read_shell takes, read_operand plain, read_line takes]
  rfl

/-- Where the user is read as an option, the operands are none, the line, or the line with its letter. -/
theorem operands_of_dashed_user (takes : letters.TakesLine) (dashed : user.isDashed = true)
    (accepted : letters.read ["-s", "/bin/sh", user, "-c", line] = .ok reading) :
    reading.operands = [] ∨ (user = ['-', '-'] ∧ reading.operands = (["-c", line] : List Text)) ∨
      (line.isDashed = false ∧ reading.operands = [line]) := by
  rw [read_shell takes] at accepted
  obtain ⟨behind, later, rfl⟩ := ok_of_map accepted
  change behind.operands = [] ∨ (_ ∧ behind.operands = _) ∨ (_ ∧ behind.operands = _)
  by_cases single : user = ['-', '-']
  · rw [single, read_behind_dashes] at later
    cases later
    exact Or.inr (Or.inl ⟨single, rfl⟩)
  rcases read_dashed dashed single later with none | ⟨more, last, rfl | ⟨value, taken⟩, read, same⟩
  · exact Or.inl none
  · rw [read_line takes] at read
    cases read
    exact Or.inl same
  · -- The letter of the line is the value of an option, and the line stands alone.
    obtain ⟨-, rfl⟩ := List.cons.inj taken
    rw [same]
    exact (operands_of_single read).imp_right Or.inr

theorem chosenUser_of_operand (named : reading.operands = [user]) (other : user ≠ ['-']) : chosenUser reading = user := by
  simp [chosenUser, named, other]

/-- An option and a single dash are never the user. That is the administrator then, or else the line or its letter. -/
theorem chosenUser_of_lost (takes : letters.TakesLine) (lost : user.isDashed = true ∨ user = ['-'])
    (accepted : letters.read ["-s", "/bin/sh", user, "-c", line] = .ok reading) :
    chosenUser reading ≠ user ∧ chosenUser reading ∈ (["root", "-c", line] : List Text) := by
  rcases lost with dashed | rfl
  · obtain ⟨letter, rest, same⟩ := Text.isDashed_iff.mp dashed
    rcases operands_of_dashed_user takes dashed accepted with none | ⟨rfl, line⟩ | ⟨plain, alone⟩
    · simp [chosenUser, none, same]
    · simp [chosenUser, line]
    · by_cases dash : line = ['-']
      · simp [chosenUser, alone, dash, same]
      · rw [chosenUser_of_operand alone dash]
        refine ⟨?_, by simp⟩
        rintro rfl
        cases dashed.symm.trans plain
  · rw [read_user takes rfl] at accepted
    cases accepted
    simp [chosenUser]

end OptionLetters

namespace Host

def argumentsOf (words : List Bytes) : List Text := (words.map Bytes.bytewise).tail

/-- The words for a change of owner name the user and the file, and there is no option. -/
def NamesOwner (letters : OptionLetters) (words : List Bytes) (user : Text) (path : Path) : Prop :=
  letters.read (argumentsOf words) = .ok { operands := [user.bytewise, path.bytes.bytewise] }

/-- The words for a run name the user, and there is no option but the shell and one line for it. -/
def NamesUser (letters : OptionLetters) (words : List Bytes) (user line : Text) : Prop :=
  ∃ reading, letters.read (argumentsOf words) = .ok reading ∧
    reading.options = [.value 's' "/bin/sh", .value 'c' line.bytewise] ∧
    reading.operands = [user.bytewise] ∧ chosenUser reading = user.bytewise

structure OwnerRead (letters : OptionLetters) (user : Text) (path : Path) : Prop where
  named : NamesOwner letters (changeOwnerWords path user) user path ↔ user.isDashed = false
  lost : user.isDashed = true → ∀ reading, letters.read (argumentsOf (changeOwnerWords path user)) = .ok reading →
    reading.operands = [] ∨ reading.operands = [path.bytes.bytewise]

structure UserRead (letters : OptionLetters) (words : List Bytes) (user line : Text) : Prop where
  named : NamesUser letters words user line ↔ user.isDashed = false ∧ user ≠ "-"
  lost : user.isDashed = true ∨ user = "-" → ∀ reading, letters.read (argumentsOf words) = .ok reading →
    chosenUser reading ≠ user.bytewise ∧ chosenUser reading ∈ (["root", "-c", line.bytewise] : List Text)

section

variable {letters : OptionLetters} {user line : Text} {path : Path}

theorem argumentsOf_changeOwnerWords (path : Path) (user : Text) :
    argumentsOf (changeOwnerWords path user) = [user.bytewise, path.bytes.bytewise] := rfl

theorem argumentsOf_switchUserWords (user line : Text) :
    argumentsOf (switchUserWords user line) =
      (["-s", "/bin/sh", user.bytewise, "-c", line.bytewise] : List Text) := by
  have option : Text.bytewise "-s" = "-s" := Text.bytewise_of_ascii (Shell.forall_of_all (by decide))
  have shell : Text.bytewise "/bin/sh" = "/bin/sh" := Text.bytewise_of_ascii (Shell.forall_of_all (by decide))
  have letter : Text.bytewise "-c" = "-c" := Text.bytewise_of_ascii (Shell.forall_of_all (by decide))
  change [Text.bytewise "-s", Text.bytewise "/bin/sh", user.bytewise, Text.bytewise "-c", line.bytewise] = _
  rw [option, shell, letter]

theorem namesOwner_iff (absolute : path.isAbsolute = true) :
    NamesOwner letters (changeOwnerWords path user) user path ↔ user.isDashed = false := by
  rw [NamesOwner, argumentsOf_changeOwnerWords]
  constructor
  · intro named
    cases dashed : user.isDashed with
    | false => rfl
    | true =>
        have lost := OptionLetters.operands_of_dashed (by simpa using dashed) named
        simp at lost
  · intro operand
    exact OptionLetters.read_operands (by simp [operand, Path.isDashed_of_isAbsolute absolute])

theorem namesUser_iff (takes : letters.TakesLine) :
    NamesUser letters (switchUserWords user line) user line ↔ user.isDashed = false ∧ user ≠ ['-'] := by
  rw [NamesUser, argumentsOf_switchUserWords]
  constructor
  · rintro ⟨reading, accepted, -, -, named⟩
    by_cases lost : user.bytewise.isDashed = true ∨ user.bytewise = ['-']
    · exact ((OptionLetters.chosenUser_of_lost takes lost accepted).1 named).elim
    · simpa [Text.bytewise_eq_dash_iff] using lost
  · rintro ⟨plain, other⟩
    refine ⟨_, OptionLetters.read_user takes (by simpa using plain), rfl, rfl, ?_⟩
    exact OptionLetters.chosenUser_of_operand rfl (mt Text.bytewise_eq_dash_iff.mp other)

theorem ownerRead (absolute : path.isAbsolute = true) : OwnerRead letters user path where
  named := namesOwner_iff absolute
  lost := by
    intro dashed reading accepted
    rw [argumentsOf_changeOwnerWords] at accepted
    exact OptionLetters.operands_of_dashed (by simpa using dashed) accepted

theorem userRead (takes : letters.TakesLine) : UserRead letters (switchUserWords user line) user line where
  named := namesUser_iff takes
  lost := by
    intro lost reading accepted
    rw [argumentsOf_switchUserWords] at accepted
    exact OptionLetters.chosenUser_of_lost takes (lost.imp (by simp) Text.bytewise_eq_dash_iff.mpr) accepted

end

end Host

namespace Services

section

variable {services : Services} {plan : Plan} {user : Option Text} {keepOwner : Bool}
  {invocation : Option Path → Invocation} {world : World} {ended : Except Failure (Option Outcome) × World}
  {events : List Event}

@[simp] theorem running_ownerChanges (invocation : Invocation) :
    (services.running invocation world).filterMap Event.ownerChange? = [] := rfl

@[simp] theorem running_runs (invocation : Invocation) :
    (services.running invocation world).filterMap Event.run? = [invocation] := rfl

@[simp] theorem handing_ownerChanges (copy : Path) (name : Text) (file : File) (filled owned : World) :
    (ScopedCopy.handing copy name file filled owned).filterMap Event.ownerChange? = [(copy, name, some file.bytes)] := rfl

@[simp] theorem handing_runs (copy : Path) (name : Text) (file : File) (filled owned : World) :
    (ScopedCopy.handing copy name file filled owned).filterMap Event.run? = [] := rfl

theorem Acquired.runs_eq {mid : World} {source : Source} {answer : Except Failure (Option Path)}
    (acquired : Acquired services plan world source answer mid events) : events.filterMap Event.run? = [] :=
  List.filterMap_eq_nil_iff.mpr acquired.worked.run?_eq_none

theorem Acquired.handed_eq {mid filled owned : World} {source : Source} {answer : Except Failure (Option Path)}
    {copy : Path} {name : Text} {file : File} (acquired : Acquired services plan world source answer mid events) :
    (events ++ ScopedCopy.handing copy name file filled owned).filterMap Event.ownerChange? =
      [(copy, name, some file.bytes)] := by
  rw [List.filterMap_append, acquired.worked.ownerChanges_eq, handing_ownerChanges, List.nil_append]

theorem Course.runs_eq (course : Course services plan user keepOwner invocation world ended events) :
    events.filterMap Event.run? = [] ∨ ∃ requirement, events.filterMap Event.run? = [invocation requirement] := by
  cases course with
  | bare none => exact Or.inr ⟨_, running_runs _⟩
  | unacquired acquired | missing acquired | unmade acquired => exact Or.inl acquired.runs_eq
  | @direct source path mid events acquired own =>
      refine Or.inr ⟨some path, ?_⟩
      rw [List.filterMap_append, acquired.runs_eq, running_runs, List.nil_append]
  | unfilled acquired made shape => exact Or.inl (by simp [acquired.runs_eq, Event.run?])
  | unowned acquired isFilled handed => exact Or.inl (by simp [acquired.runs_eq])
  | @copied source path copy name fresh folder file mid filled owned events acquired asked changes isFilled placed =>
      refine Or.inr ⟨some copy, ?_⟩
      simp only [List.filterMap_append, acquired.runs_eq, handing_runs, running_runs, List.nil_append]

/-- An owner is changed once at most, for the user of the call, and of a file that was made on the way. -/
theorem Course.ownerChanges_eq (course : Course services plan user keepOwner invocation world ended events) :
    events.filterMap Event.ownerChange? = [] ∨ ∃ copy name bytes,
      events.filterMap Event.ownerChange? = [(copy, name, bytes)] ∧ user = some name ∧ .made copy ∈ events ∧
        copy.isAbsolute = true := by
  cases course with
  | bare none => exact Or.inl (running_ownerChanges _)
  | unacquired acquired | missing acquired | unmade acquired => exact Or.inl acquired.worked.ownerChanges_eq
  | direct acquired own => exact Or.inl (by simp [acquired.worked.ownerChanges_eq])
  | unfilled acquired made shape => exact Or.inl (by simp [acquired.worked.ownerChanges_eq, Event.ownerChange?])
  | unowned acquired isFilled handed asked placed =>
      refine Or.inr ⟨_, _, _, acquired.handed_eq, asked, by simp [ScopedCopy.handing], ?_⟩
      exact placed ▸ Temporary.isAbsolute_pathIn _ _ _
  | @copied source path copy name fresh folder file mid filled owned events acquired asked changes isFilled placed =>
      refine Or.inr ⟨copy, name, some file.bytes, ?_, asked, by simp [ScopedCopy.handing], ?_⟩
      · rw [List.filterMap_append, acquired.handed_eq, running_ownerChanges, List.append_nil]
      · exact placed ▸ Temporary.isAbsolute_pathIn _ _ _

end

end Services

namespace Pip

open Host

structure AsksFor (prepared : Except Failure Preparation) (folder : Option Path) (user : Option Text)
    (events : List Event) : Prop where
  owners : ∀ change ∈ events.filterMap Event.ownerChange?,
    user = some change.2.1 ∧ .made change.1 ∈ events ∧ ∀ letters, OwnerRead letters change.2.1 change.1
  runs : ∀ ran ∈ events.filterMap Event.run?,
    (∃ ready requirement, prepared = .ok ready ∧ ran = ready.invocation folder user requirement) ∧
      ∀ name, user = some name → ∀ letters : OptionLetters, letters.TakesLine →
        UserRead letters (words ran) name ran.command.shellText

theorem asksFor_nothing (prepared : Except Failure Preparation) (folder : Option Path) (user : Option Text) :
    AsksFor prepared folder user [] where
  owners := by simp
  runs := by simp

theorem asksFor_carriedOut {α : Type} (services : Services) (ready : Preparation) (folder : Option Path)
    (user : Option Text) (keepOwner : Bool) (answer : Option Outcome → Except Failure α) (world : World) :
    ∃ events, (carriedOut services ready.plan user keepOwner (ready.invocation folder user) answer world).2.events =
      world.events ++ events ∧ AsksFor (.ok ready) folder user events := by
  obtain ⟨events, course⟩ := services.withRequirements_course ready.plan user keepOwner (ready.invocation folder user)
    world
  refine ⟨events, course.events_eq, ?_, ?_⟩
  · intro change member
    rcases course.ownerChanges_eq with none | ⟨copy, name, bytes, one, asked, made, absolute⟩
    · simp [none] at member
    · rw [one, List.mem_singleton] at member
      subst member
      exact ⟨asked, made, fun _ => ownerRead absolute⟩
  · intro ran member
    rcases course.runs_eq with none | ⟨requirement, one⟩
    · simp [none] at member
    · rw [one, List.mem_singleton] at member
      subst member
      refine ⟨⟨ready, requirement, rfl, rfl⟩, ?_⟩
      rintro name rfl letters takes
      exact userRead takes

/-- Whatever text is given for the user: the program that changes owners reads it as the user, and the new file as the
one file, and the program that changes users reads it as the user, and the line of the run as the one line, just if it
does not begin like an option; for the latter it is no single dash either. Otherwise neither reads it as the user. -/
theorem users_read_as_operands (services : Services) (world : World) :
    (∀ request, ∃ events, (install services request world).2.events = world.events ++ events ∧
      AsksFor (prepareInstall services request world) request.folder request.user events) ∧
    ∀ request, ∃ events, (uninstall services request world).2.events = world.events ++ events ∧
      AsksFor (prepareUninstall services request world) request.folder request.user events := by
  constructor
  · intro request
    rw [install_apply]
    cases prepareInstall services request world with
    | error failure => exact ⟨[], (List.append_nil _).symm, asksFor_nothing _ _ _⟩
    | ok ready => exact asksFor_carriedOut services ready request.folder request.user request.keepOwner _ world
  · intro request
    rw [uninstall_apply]
    cases prepareUninstall services request world with
    | error failure => exact ⟨[], (List.append_nil _).symm, asksFor_nothing _ _ _⟩
    | ok ready => exact asksFor_carriedOut services ready request.folder request.user request.keepOwner _ world

def ordinaryWorld : World :=
  (World.standard "/work" [("PATH", "/usr/bin"), ("TMPDIR", "/tmp")]).plant "/work/a" (.file { bytes := ⟨#[65]⟩ })

def ordinaryServices : Services := Host.services { root := "srv", folder := "kept" }

def requestAs (user : Text) : InstallRequest where
  requirements := some (.onHost "a")
  program := some "pip"
  user := some user

def ordinaryRun (user : Text) (requirement : Path) : Invocation where
  command := { program := "pip", arguments := ["install", "--requirement=" ++ requirement.text] }
  user := some user

def ownersAsked (world : World) : List (Path × Text) :=
  (world.events.filterMap Event.ownerChange?).map fun change => (change.1, change.2.1)

theorem mem_ownerChanges {world : World} {path : Path} {user : Text} (asked : ownersAsked world = [(path, user)]) :
    ∃ bytes, (path, user, bytes) ∈ world.events.filterMap Event.ownerChange? := by
  obtain ⟨⟨copy, name, bytes⟩, member, same⟩ := List.mem_map.mp
    (show (path, user) ∈ ownersAsked world from asked ▸ List.mem_singleton_self _)
  cases same
  exact ⟨bytes, member⟩

theorem switchLetters_takesLine : switchLetters.TakesLine := ⟨by decide, by decide⟩

theorem users_read_as_operands_root :
    let user : Text := "root"
    let copy : Path := "/tmp/pipctl-req-000000.txt"
    let after := (install ordinaryServices (requestAs user) ordinaryWorld).2
    (∃ bytes, (copy, user, bytes) ∈ after.events.filterMap Event.ownerChange?) ∧
    NamesOwner changeOwnerLetters (changeOwnerWords copy user) user copy ∧
    ordinaryRun user copy ∈ after.events.filterMap Event.run? ∧
    NamesUser switchLetters (words (ordinaryRun user copy)) user
      "pip install --requirement=/tmp/pipctl-req-000000.txt" := by
  intro user copy after
  obtain ⟨events, told, asks⟩ := (users_read_as_operands ordinaryServices ordinaryWorld).1 (requestAs user)
  obtain rfl : after.events = events := told
  have asked : ownersAsked after = [(copy, user)] ∧ ordinaryRun user copy ∈ after.events.filterMap Event.run? := by
    decide +kernel
  obtain ⟨bytes, changed⟩ := mem_ownerChanges asked.1
  have owner := (asks.owners _ changed).2.2 changeOwnerLetters
  have run := (asks.runs _ asked.2).2 user rfl switchLetters switchLetters_takesLine
  exact ⟨⟨bytes, changed⟩, owner.named.mpr rfl, asked.2, run.named.mpr ⟨rfl, by decide⟩⟩

/-- A call for the user --version ends well, though nobody becomes an owner and pip is not run. What is to be run for the
user -l is a line for the administrator. -/
theorem option_taken_for_user :
    let user : Text := "--version"
    let copy : Path := "/tmp/pipctl-req-000000.txt"
    let ended := install ordinaryServices (requestAs user) ordinaryWorld
    ended.1 = .ok (.completed { code := 0, output := "su from util-linux 2.41\n", diagnostics := [] }) ∧
    (∃ bytes, (copy, user, bytes) ∈ ended.2.events.filterMap Event.ownerChange?) ∧
    ¬NamesOwner changeOwnerLetters (changeOwnerWords copy user) user copy ∧
    ordinaryRun user copy ∈ ended.2.events.filterMap Event.run? ∧
    ¬NamesUser switchLetters (words (ordinaryRun user copy)) user
      "pip install --requirement=/tmp/pipctl-req-000000.txt" ∧
    let other := install ordinaryServices { requestAs "-l" with keepOwner := true } ordinaryWorld
    ordinaryRun "-l" "a" ∈ other.2.events.filterMap Event.run? ∧
    ∃ reading, switchLetters.read (argumentsOf (words (ordinaryRun "-l" "a"))) = .ok reading ∧
      chosenUser reading = "root" ∧ reading.valueOf? 'c' = some ("pip install --requirement=a" : Text) := by
  intro user copy ended
  have ends : ended.1.toOption =
        some (.completed { code := 0, output := "su from util-linux 2.41\n", diagnostics := [] }) ∧
      ownersAsked ended.2 = [(copy, user)] ∧ ordinaryRun user copy ∈ ended.2.events.filterMap Event.run? := by
    decide +kernel
  refine ⟨ok_of_toOption ends.1, mem_ownerChanges ends.2.1, ?_, ends.2.2, ?_, by decide +kernel, ?_⟩
  · rw [namesOwner_iff (by decide)]
    decide
  · exact fun named => absurd ((namesUser_iff switchLetters_takesLine).mp named).1 (by decide)
  · let reading : OptionReading := {
      options := [.value 's' "/bin/sh", .flag 'l', .value 'c' "pip install --requirement=a"] }
    exact ⟨reading, ok_of_toOption (by decide +kernel), by decide, by decide⟩

end Pip

end PipDriver
