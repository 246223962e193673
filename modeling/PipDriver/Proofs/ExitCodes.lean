import PipDriver.CommandLine.Run
import PipDriver.Host.Services
import PipDriver.Proofs.Refusals

/-!
The code and the output that a command line ends with, told from what became of its one process: never started,
exited with a code, or killed. Nothing is assumed of how processes start and end.
-/

namespace PipDriver

structure LastRun (runner : Runner) (invocation : Invocation) (before moment after : World) : Prop where
  host : moment.host = before.host
  ahead : ∃ earlier bytes, (∀ event ∈ earlier, event.run? = none) ∧
    moment.events = before.events ++ earlier ++ [.invoked invocation bytes]
  told : after.events = moment.events ++ [.lent moment.disk (runner invocation moment).2.disk]

section

variable {runner : Runner} {invocation other : Invocation} {before moment later after : World}

theorem LastRun.events_eq (last : LastRun runner invocation before moment after) :
    ∃ earlier bytes left,
      after.events = before.events ++ (earlier ++ [.invoked invocation bytes, .lent moment.disk left]) ∧
      moment.events = before.events ++ earlier ++ [.invoked invocation bytes] := by
  obtain ⟨earlier, bytes, -, ahead⟩ := last.ahead
  refine ⟨earlier, bytes, (runner invocation moment).2.disk, ?_, ahead⟩
  rw [last.told, ahead, List.append_assoc, List.append_assoc]
  rfl

/-- There is one last run, in one world. -/
theorem LastRun.unique (first : LastRun runner invocation before moment after)
    (second : LastRun runner other before later after) : other = invocation ∧ later = moment := by
  obtain ⟨_, _, _, told, ahead⟩ := first.events_eq
  obtain ⟨_, _, _, told', ahead'⟩ := second.events_eq
  have same := List.append_inj' (List.append_cancel_left (told.symm.trans told')) rfl
  obtain ⟨rfl, tails⟩ := same
  simp only [List.cons.injEq, Event.invoked.injEq, Event.lent.injEq, and_true] at tails
  obtain ⟨⟨rfl, rfl⟩, disk, -⟩ := tails
  refine ⟨rfl, ?_⟩
  have host := second.host.trans first.host.symm
  have events := ahead'.trans ahead.symm
  cases moment
  cases later
  simp only at disk host events
  subst disk host events
  rfl

theorem LastRun.not_neverRun (last : LastRun runner invocation before moment after) : ¬NeverRun before after := by
  rintro ⟨events, told, quiet⟩
  obtain ⟨earlier, bytes, left, told', -⟩ := last.events_eq
  have same := List.append_cancel_left (told.symm.trans told')
  subst same
  cases quiet (.invoked invocation bytes) (by simp)

end

namespace Services

variable {before mid after : World} {earlier : List Event}

theorem lastRun (services : Services) (invocation : Invocation) (stands : mid = before.moved mid.disk earlier)
    (quiet : ∀ event ∈ earlier, event.run? = none) (last : after.events = (services.run invocation mid).2.events) :
    ∃ moment, LastRun services.runner invocation before moment after ∧
      (services.run invocation mid).1 = (services.runner invocation moment).1 := by
  have host : mid.host = before.host := by rw [stands, World.moved_host]
  have events : mid.events = before.events ++ earlier := by rw [stands, World.moved_events]
  rw [run_apply] at last ⊢
  refine ⟨mid.moved mid.disk [.invoked invocation ((requirementOf invocation.command).bind mid.read?)],
    ⟨host, ⟨earlier, (requirementOf invocation.command).bind mid.read?, quiet, ?_⟩, ?_⟩, rfl⟩
  · rw [World.moved_events, events]
  · rw [last, World.moved_events, World.moved_events, List.append_assoc]
    rfl

/-- A plan is answered by the one run that there is, and has no outcome without it. -/
theorem Course.last {services : Services} {plan : Plan} {user : Option Text} {keepOwner : Bool}
    {invocation : Option Path → Invocation} {world : World} {ended : Except Failure (Option Outcome) × World}
    {events : List Event} (course : Course services plan user keepOwner invocation world ended events) :
    (NeverRun world ended.2 ∧ ∀ outcome, ended.1 ≠ .ok (some outcome)) ∨
    ∃ requirement moment, LastRun services.runner (invocation requirement) world moment ended.2 ∧
      ended.1 = (services.runner (invocation requirement) moment).1.map some := by
  have told := course.events_eq
  cases course with
  | bare bare =>
      obtain ⟨moment, last, answer⟩ := services.lastRun (invocation none)
        (World.moved_self world).symm (by simp) rfl
      exact Or.inr ⟨none, moment, last, by rw [answer]⟩
  | unacquired acquired => exact Or.inl ⟨⟨_, told, acquired.worked.run?_eq_none⟩, by simp⟩
  | missing acquired => exact Or.inl ⟨⟨_, told, acquired.worked.run?_eq_none⟩, by simp⟩
  | @direct source path mid events acquired own =>
      obtain ⟨moment, last, answer⟩ := services.lastRun (invocation (some path))
        acquired.worked.stands acquired.worked.run?_eq_none rfl
      exact Or.inr ⟨_, moment, last, by rw [answer]⟩
  | unmade acquired => exact Or.inl ⟨⟨_, told, acquired.worked.run?_eq_none⟩, by simp⟩
  | unfilled acquired made shape =>
      exact Or.inl ⟨⟨_, told, acquired.worked.quiet_append (by simp [Event.run?])⟩, by simp⟩
  | unowned acquired isFilled handed =>
      exact Or.inl ⟨⟨_, told, acquired.worked.quiet_append (by simp [ScopedCopy.handing, Event.run?])⟩, by simp⟩
  | @copied source path copy name fresh folder file mid filled owned events acquired asked changes isFilled placed
      handed =>
      have stands := (isFilled.handed handed).1
      rw [acquired.worked.stands, World.moved_moved] at stands
      obtain ⟨moment, last, answer⟩ := services.lastRun (invocation (some copy)) stands
        (acquired.worked.quiet_append (by simp [ScopedCopy.handing, Event.run?])) (remove_events _ _)
      exact Or.inr ⟨_, moment, last, by rw [answer]⟩

end Services

namespace Host

variable {launcher : Launcher} {cache : Cache} {before after world : World}

/-- What became of the one process between two worlds: it was not asked for, it could not be started, or it
ended. -/
inductive Came (launcher : Launcher) (before after : World) : Option (Ending × Machine) → Prop
  | never (never : NeverRun before after) : Came launcher before after none
  | unstarted {invocation : Invocation} {moment : World} {fault : Fault}
      (last : LastRun (runnerWith launcher) invocation before moment after)
      (refused : launcher moment (words invocation) invocation.folder = .error fault) :
      Came launcher before after none
  | ended {invocation : Invocation} {moment : World} {process : Ending × Machine}
      (last : LastRun (runnerWith launcher) invocation before moment after)
      (started : launcher moment (words invocation) invocation.folder = .ok process) :
      Came launcher before after (some process)

theorem Came.unique {process other : Option (Ending × Machine)} (came : Came launcher before after process)
    (again : Came launcher before after other) : other = process := by
  cases came with
  | never never =>
      cases again with
      | never _ | unstarted _ _ => rfl
      | ended last _ => exact (last.not_neverRun never).elim
  | unstarted last refused =>
      cases again with
      | never _ | unstarted _ _ => rfl
      | ended later started =>
          obtain ⟨rfl, rfl⟩ := last.unique later
          cases refused.symm.trans started
  | ended last started =>
      cases again with
      | never never => exact (last.not_neverRun never).elim
      | unstarted later refused =>
          obtain ⟨rfl, rfl⟩ := last.unique later
          cases refused.symm.trans started
      | ended later again =>
          obtain ⟨rfl, rfl⟩ := last.unique later
          cases started.symm.trans again
          rfl

/-- The answer of a runner is the outcome of the process, if there was one. -/
theorem came_of_lastRun {invocation : Invocation} {moment : World}
    (last : LastRun (runnerWith launcher) invocation before moment after) :
    (∃ failure, Came launcher before after none ∧ (runnerWith launcher invocation moment).1 = .error failure) ∨
    ∃ process, Came launcher before after (some process) ∧
      (runnerWith launcher invocation moment).1 = .ok (outcomeOf process.1 process.2) := by
  cases started : launcher moment (words invocation) invocation.folder with
  | error fault =>
      refine Or.inl ⟨.notStarted invocation.command.program.text fault, .unstarted last started, ?_⟩
      rw [runnerWith, executeWith, started]
  | ok process =>
      refine Or.inr ⟨process, .ended last started, ?_⟩
      rw [runnerWith, executeWith, started]

def Answered {α : Type} (launcher : Launcher) (completed : Outcome → α) (world : World)
    (ended : Except Failure α × World) : Prop :=
  (Came launcher world ended.2 none ∧ ∀ outcome, ended.1 ≠ .ok (completed outcome)) ∨
  ∃ process, Came launcher world ended.2 (some process) ∧
    ended.1 = .ok (completed (outcomeOf process.1 process.2))

theorem neverRun_self (world : World) : NeverRun world world := ⟨[], (List.append_nil _).symm, by simp⟩

theorem answered_of_refusal {α : Type} {completed : Outcome → α} (failure : Failure) (world : World) :
    Answered launcher completed world (.error failure, world) :=
  Or.inl ⟨.never (neverRun_self world), by simp⟩

theorem answered_carriedOut {α : Type} {plan : Plan} {user : Option Text} {keepOwner : Bool}
    {invocation : Option Path → Invocation} {answer : Option Outcome → Except Failure α} {completed : Outcome → α}
    (whole : ∀ outcome, answer (some outcome) = .ok (completed outcome))
    (apart : ∀ outcome, answer none ≠ .ok (completed outcome)) :
    Answered launcher completed world
      (Pip.carriedOut (servicesWith launcher cache) plan user keepOwner invocation answer world) := by
  obtain ⟨events, course⟩ :=
    (servicesWith launcher cache).withRequirements_course plan user keepOwner invocation world
  have last := course.last
  simp only [Pip.carriedOut]
  generalize (servicesWith launcher cache).withRequirements plan user keepOwner _ world = driven at last
  obtain ⟨driven, after⟩ := driven
  rcases last with ⟨never, unanswered⟩ | ⟨requirement, moment, last, rfl⟩
  · refine Or.inl ⟨.never never, ?_⟩
    intro outcome same
    rcases driven with failure | _ | answered
    · cases same
    · exact apart outcome same
    · exact unanswered answered rfl
  · have runner : (servicesWith launcher cache).runner = runnerWith launcher := rfl
    rcases came_of_lastRun last with ⟨failure, came, failed⟩ | ⟨process, came, answered⟩
    · refine Or.inl ⟨came, ?_⟩
      rw [runner, failed]
      intro outcome same
      cases same
    · refine Or.inr ⟨process, came, ?_⟩
      rw [runner, answered]
      exact whole _

theorem answered_install (request : InstallRequest) (world : World) :
    Answered launcher .completed world (Pip.install (servicesWith launcher cache) request world) := by
  rcases Pip.install_cases (servicesWith launcher cache) request world with
    ⟨failure, -, ended⟩ | ⟨program, activation, plan, -, ended⟩
  · rw [ended]
    exact answered_of_refusal failure world
  · rw [ended]
    exact answered_carriedOut (fun _ => rfl) (by simp [Pip.installAnswer])

theorem answered_uninstall (request : UninstallRequest) (world : World) :
    Answered launcher id world (Pip.uninstall (servicesWith launcher cache) request world) := by
  rcases Pip.uninstall_cases (servicesWith launcher cache) request world with
    ⟨failure, -, ended⟩ | ⟨program, plan, -, ended⟩
  · rw [ended]
    exact answered_of_refusal failure world
  · rw [ended]
    exact answered_carriedOut (fun _ => rfl) (by simp [Pip.uninstallAnswer])

/-- A listing is shown just when its process exited with zero. -/
theorem answered_listing (launcher : Launcher) (cache : Cache) (context : Context) (world : World) :
    let ended := Pip.listing (servicesWith launcher cache) context world
    ∃ process, Came launcher world ended.2 process ∧
      ((∃ listing, ended.1 = .ok listing) ↔ ∃ machine, process = some (.exited 0, machine)) := by
  intro ended
  rcases Pip.listing_cases (servicesWith launcher cache) context world with ⟨failure, -, same⟩ | ⟨invocation, same⟩
  · refine ⟨none, ?_, ?_⟩
    · rw [show ended = _ from same]
      exact .never (neverRun_self world)
    · rw [show ended = _ from same]
      simp
  · obtain ⟨moment, last, answer⟩ := (servicesWith launcher cache).lastRun invocation
      (World.moved_self world).symm (by simp) rfl
    have runner : (servicesWith launcher cache).runner = runnerWith launcher := rfl
    rw [show ended = _ from same, answer, runner]
    rcases came_of_lastRun last with ⟨failure, came, failed⟩ | ⟨⟨ending, machine⟩, came, answered⟩
    · refine ⟨none, came, ?_⟩
      rw [failed]
      simp [Except.bind]
    · refine ⟨_, came, ?_⟩
      rw [answered]
      cases ending with
      | exited code => by_cases zero : code = 0 <;> simp [Except.bind, Pip.listed, outcomeOf, zero]
      | killed signal => simp [Except.bind, Pip.listed, outcomeOf, killedCode]

end Host

namespace CommandLine

open Host

variable {launcher : Launcher} {cache : Cache}

/-- Code and output for what became of a process. -/
def relayed : Option (Ending × Machine) → Nat × Text
  | none => (failureCode, [])
  | some (.exited code, machine) => (code, Text.ofUtf8Lenient machine.output)
  | some (.killed _, machine) => (failureCode, Text.ofUtf8Lenient machine.output)

theorem relayed_eq_zero_iff (process : Option (Ending × Machine)) :
    (relayed process).1 = 0 ↔ ∃ machine, process = some (.exited 0, machine) := by
  rcases process with _ | ⟨code | signal, machine⟩
  · simp [relayed, failureCode]
  · simp [relayed]
  · simp [relayed, failureCode]

def Exit.ofAnswer : Except Failure Exit → Exit
  | .ok exit => exit
  | .error failure => .ofFailure failure

theorem Exit.ofOutcome_output (outcome : Outcome) : (Exit.ofOutcome outcome).output = outcome.output := by
  unfold Exit.ofOutcome
  split <;> rfl

theorem Exit.ofOutcome_code (outcome : Outcome) :
    (Exit.ofOutcome outcome).code = if outcome.code < 0 then failureCode else outcome.code.toNat := by
  unfold Exit.ofOutcome
  by_cases zero : outcome.code = 0
  · simp [Outcome.succeeded, zero]
  · simp only [Outcome.succeeded, zero, decide_false, Bool.false_eq_true, if_false]
    split <;> split <;> first | rfl | omega

theorem Exit.ofOutcome_outcomeOf (process : Ending × Machine) :
    ((Exit.ofOutcome (outcomeOf process.1 process.2)).code, (Exit.ofOutcome (outcomeOf process.1 process.2)).output) =
      relayed (some process) := by
  rw [Exit.ofOutcome_code, Exit.ofOutcome_output]
  obtain ⟨code | signal, machine⟩ := process
  · have positive : ¬((code : Int) < 0) := by omega
    simp [outcomeOf, relayed, positive]
  · simp [outcomeOf, relayed, killedCode]

def Relays (launcher : Launcher) (world : World) (ended : Except Failure Exit × World) : Prop :=
  ∃ process, Came launcher world ended.2 process ∧
    ((Exit.ofAnswer ended.1).code, (Exit.ofAnswer ended.1).output) = relayed process

def Shows (launcher : Launcher) (world : World) (ended : Except Failure Exit × World) : Prop :=
  ∃ process, Came launcher world ended.2 process ∧
    ((∃ machine, process = some (.exited 0, machine)) → (Exit.ofAnswer ended.1).code = 0) ∧
    ((¬∃ machine, process = some (.exited 0, machine)) →
      (Exit.ofAnswer ended.1).code = failureCode ∧ (Exit.ofAnswer ended.1).output = [])

theorem relays_install (config : Config) (request : InstallRequest) (world : World) :
    Relays launcher world (Task.carryOut (servicesWith launcher cache) config (.install request) world) := by
  have answered : Answered launcher .completed world
      (Pip.install (servicesWith launcher cache) (request.withDefaults config) world) := answered_install _ world
  rw [Task.carryOut, Step.bind_apply]
  generalize Pip.install _ _ world = ended at answered
  obtain ⟨answer, after⟩ := ended
  rcases answered with ⟨came, unanswered⟩ | ⟨process, came, rfl⟩
  · refine ⟨none, ?_, ?_⟩
    · rcases answer with failure | ⟨outcome⟩ | ⟨source⟩
      · exact came
      · exact came
      · exact came
    · rcases answer with failure | ⟨outcome⟩ | ⟨source⟩
      · rfl
      · exact absurd rfl (unanswered outcome)
      · rfl
  · exact ⟨some process, came, Exit.ofOutcome_outcomeOf process⟩

theorem relays_uninstall (config : Config) (request : UninstallRequest) (world : World) :
    Relays launcher world (Task.carryOut (servicesWith launcher cache) config (.uninstall request) world) := by
  have answered : Answered launcher id world
      (Pip.uninstall (servicesWith launcher cache) (request.withDefaults config) world) := answered_uninstall _ world
  rw [Task.carryOut, Step.bind_pure_apply]
  generalize Pip.uninstall _ _ world = ended at answered
  obtain ⟨answer, after⟩ := ended
  rcases answered with ⟨came, unanswered⟩ | ⟨process, came, rfl⟩
  · cases answer with
    | error failure => exact ⟨none, came, rfl⟩
    | ok outcome => exact absurd rfl (unanswered outcome)
  · exact ⟨some process, came, Exit.ofOutcome_outcomeOf process⟩

/-- Whatever is shown of a listing is shown with the code zero. -/
theorem shows_listing (launcher : Launcher) (cache : Cache) (shown : Text → Exit)
    (succeeds : ∀ listing, (shown listing).code = 0) (context : Context) (world : World) :
    let ended := Pip.listing (servicesWith launcher cache) context world
    Shows launcher world (ended.1.map shown, ended.2) := by
  intro ended
  obtain ⟨process, came, told⟩ := answered_listing launcher cache context world
  refine ⟨process, came, ?_, ?_⟩
  · intro exited
    obtain ⟨listing, answered⟩ := told.mpr exited
    rw [show ended.1 = _ from answered]
    exact succeeds listing
  · intro failed
    cases answered : ended.1 with
    | error failure => exact ⟨rfl, rfl⟩
    | ok listing => exact absurd (told.mp ⟨listing, answered⟩) failed

theorem shows_freeze (config : Config) (context : Context) (world : World) :
    Shows launcher world (Task.carryOut (servicesWith launcher cache) config (.freeze context) world) := by
  have frozen (context : Context) : Pip.freeze (servicesWith launcher cache) context world = _ :=
    Step.bind_pure_apply Text.lines _ world
  have shows_ := shows_listing launcher cache
    (fun listing => { code := 0, output := listing.lines.flatMap fun line => line ++ ['\n'] }) (fun _ => rfl)
    (filled context config) world
  rw [Task.carryOut, Step.bind_pure_apply, frozen]
  generalize Pip.listing _ _ world = ended at shows_
  obtain ⟨answer, after⟩ := ended
  cases answer <;> exact shows_

theorem shows_list (config : Config) (wanted : Option Text) (asObject : Bool) (context : Context) (world : World) :
    Shows launcher world
      (Task.carryOut (servicesWith launcher cache) config (.list wanted asObject context) world) := by
  have listed (context : Context) : Pip.list (servicesWith launcher cache) wanted context world = _ :=
    Step.bind_pure_apply (fun listing => Versions.ofListing listing wanted) _ world
  have shows_ := shows_listing launcher cache
    (fun listing =>
      let versions := Versions.ofListing listing wanted
      { code := 0, output := if asObject then versions.object ++ ['\n'] else versions.lines })
    (fun _ => rfl) (filled context config) world
  rw [Task.carryOut, Step.bind_pure_apply, listed]
  generalize Pip.listing _ _ world = ended at shows_
  obtain ⟨answer, after⟩ := ended
  cases answer <;> exact shows_

/-- A configuration that cannot be loaded ends everything before a process is asked for. -/
theorem carryOut_cases (serve : Cache → Services) (reading : Reading) (path : Option Path) (world : World) :
    (∃ failure, reading.carryOut serve path world = (.error failure, world)) ∨
    ∃ config cache, reading.carryOut serve path world = reading.task.carryOut (serve cache) config world := by
  cases loaded : configOf world path with
  | error failure =>
      refine Or.inl ⟨failure, ?_⟩
      rw [Reading.carryOut, Step.bind_apply, Step.check_apply, loaded]
  | ok config =>
      refine Or.inr ⟨config, cacheOf config world.host, ?_⟩
      rw [Reading.carryOut, Step.bind_apply, Step.check_apply, loaded]
      rfl

theorem run_eq {serve : Cache → Services} {words : List Text} {world : World} {reading : Reading}
    {path : Option Path} (accepted : read words = .ok reading)
    (configured : reading.configPath (world.host.valueOf? Config.fileVariable) = .ok path) :
    run serve words world =
      (Exit.ofAnswer (reading.carryOut serve path world).1, (reading.carryOut serve path world).2) := by
  simp only [run, accepted, configured, Step.carryOut]
  generalize reading.carryOut serve path world = ended
  obtain ⟨answer, after⟩ := ended
  cases answer <;> rfl

theorem Relays.tells {world : World} {ended : Except Failure Exit × World} (relays : Relays launcher world ended) :
    ∃ process, Came launcher world ended.2 process ∧
      ((Exit.ofAnswer ended.1).code = 0 ↔ ∃ machine, process = some (.exited 0, machine)) ∧
      ((Exit.ofAnswer ended.1).code, (Exit.ofAnswer ended.1).output) = relayed process := by
  obtain ⟨process, came, told⟩ := relays
  refine ⟨process, came, ?_, told⟩
  rw [← relayed_eq_zero_iff, ← told]

theorem Shows.tells {world : World} {ended : Except Failure Exit × World} (shows_ : Shows launcher world ended) :
    ∃ process, Came launcher world ended.2 process ∧
      ((Exit.ofAnswer ended.1).code = 0 ↔ ∃ machine, process = some (.exited 0, machine)) ∧
      ((¬∃ machine, process = some (.exited 0, machine)) →
        (Exit.ofAnswer ended.1).code = failureCode ∧ (Exit.ofAnswer ended.1).output = []) := by
  obtain ⟨process, came, succeeds, fails⟩ := shows_
  refine ⟨process, came, ⟨?_, succeeds⟩, fails⟩
  intro zero
  rcases Classical.em (∃ machine, process = some (.exited 0, machine)) with exited | failed
  · exact exited
  · cases zero.symm.trans (fails failed).1

/-- A command line asks for one process at most, and ends with zero just when that process exited with zero. An
installation or a removal ends with the code and the output of the process; a listing that fails ends with one and
shows nothing. -/
theorem exit_tells_process (launcher : Launcher) {words : List Text} {world : World} {reading : Reading}
    {path : Option Path} (accepted : read words = .ok reading)
    (configured : reading.configPath (world.host.valueOf? Config.fileVariable) = .ok path) :
    let ended := run (servicesWith launcher) words world
    ∃ process, (∀ other, Came launcher world ended.2 other ↔ other = process) ∧
      (ended.1.code = 0 ↔ ∃ machine, process = some (.exited 0, machine)) ∧
      (reading.verb = .install ∨ reading.verb = .uninstall → (ended.1.code, ended.1.output) = relayed process) ∧
      (reading.verb = .freeze ∨ reading.verb = .list → (¬∃ machine, process = some (.exited 0, machine)) →
        ended.1.code = failureCode ∧ ended.1.output = []) := by
  intro ended
  have carried : ∃ process, Came launcher world ended.2 process ∧
      (ended.1.code = 0 ↔ ∃ machine, process = some (.exited 0, machine)) ∧
      (reading.verb = .install ∨ reading.verb = .uninstall → (ended.1.code, ended.1.output) = relayed process) ∧
      (reading.verb = .freeze ∨ reading.verb = .list → (¬∃ machine, process = some (.exited 0, machine)) →
        ended.1.code = failureCode ∧ ended.1.output = []) := by
    rw [show ended = _ from run_eq accepted configured]
    rcases carryOut_cases (servicesWith launcher) reading path world with ⟨failure, same⟩ | ⟨config, cache, same⟩
    · rw [same]
      refine ⟨none, .never (neverRun_self world), ?_, fun _ => rfl, fun _ _ => ⟨rfl, rfl⟩⟩
      exact relayed_eq_zero_iff none
    · rw [same, Reading.task]
      cases reading.verb with
      | install =>
          obtain ⟨process, came, zero, told⟩ := (relays_install config reading.given.install world).tells
          exact ⟨process, came, zero, fun _ => told, by simp⟩
      | uninstall =>
          obtain ⟨process, came, zero, told⟩ := (relays_uninstall config reading.given.uninstall world).tells
          exact ⟨process, came, zero, fun _ => told, by simp⟩
      | freeze =>
          obtain ⟨process, came, zero, fails⟩ := (shows_freeze config reading.given.context world).tells
          exact ⟨process, came, zero, by simp, fun _ => fails⟩
      | list =>
          obtain ⟨process, came, zero, fails⟩ := (shows_list config _ _ reading.given.context world).tells
          exact ⟨process, came, zero, by simp, fun _ => fails⟩
  obtain ⟨process, came, told⟩ := carried
  refine ⟨process, ?_, told⟩
  intro other
  constructor
  · exact came.unique
  · rintro rfl
    exact came

def killer : Launcher := fun world _ _ =>
  .ok (.killed 9, { disk := world.disk, programs := [], accounts := [], groups := [], output := Text.utf8 "half" })

def killedReading : Reading where
  leading := {}
  verb := .install
  given := { settings := [(.program, "pip")], operands := ["six"] }

theorem exit_tells_process_killed :
    let words : List Text := ["install", "--bin-env", "pip", "six"]
    let world : World := { disk := {}, host := { folder := [] } }
    let ended := run (servicesWith killer) words world
    read words = .ok killedReading ∧
      killedReading.configPath (world.host.valueOf? Config.fileVariable) = .ok none ∧
      ended.1.code = failureCode ∧ ended.1.output = "half" ∧
      ∃ process, (∀ other, Came killer world ended.2 other ↔ other = process) ∧
        relayed process = (failureCode, ("half" : Text)) := by
  intro words world ended
  have accepted : read words = .ok killedReading := ok_of_toOption (by decide +kernel)
  have configured : killedReading.configPath (world.host.valueOf? Config.fileVariable) = .ok none :=
    ok_of_toOption (by decide +kernel)
  have code : ended.1.code = failureCode := by decide +kernel
  have output : ended.1.output = "half" := by decide +kernel
  obtain ⟨process, came, -, relays, -⟩ := exit_tells_process killer accepted configured
  refine ⟨accepted, configured, code, output, process, came, ?_⟩
  rw [← relays (Or.inl rfl)]
  exact Prod.ext code output

end CommandLine

end PipDriver
