import PipDriver.Proofs.Acquisition
import PipDriver.Proofs.Checks

/-!
How pip is driven once a request is accepted: the requirements file is acquired, perhaps copied for another
user, and handed to one run. Every way this can end is listed, with the world that it leaves.
-/

namespace PipDriver

open Disk AtomicFile

namespace Services

theorem run_apply (services : Services) (invocation : Invocation) (world : World) :
    services.run invocation world =
      let bytes := (requirementOf invocation.command).bind world.read?
      let taken := services.runner invocation (world.moved world.disk [.invoked invocation bytes])
      (taken.1, world.moved taken.2.disk [.invoked invocation bytes, .lent world.disk taken.2.disk]) := by
  simp only [run, Step.bind_apply, Step.look_apply, Step.record_apply, Step.byOthers_apply, World.moved_disk,
    World.moved_moved]
  rfl

def running (services : Services) (invocation : Invocation) (world : World) : List Event :=
  [.invoked invocation ((requirementOf invocation.command).bind world.read?),
    .lent world.disk (services.run invocation world).2.disk]

theorem run_events (services : Services) (invocation : Invocation) (world : World) :
    (services.run invocation world).2.events = world.events ++ services.running invocation world := by
  rw [running, run_apply]
  rfl

theorem run_host (services : Services) (invocation : Invocation) (world : World) :
    (services.run invocation world).2.host = world.host := by
  rw [run_apply]
  rfl

structure Acquired (services : Services) (plan : Plan) (world : World) (source : Source)
    (answer : Except Failure (Option Path)) (mid : World) (events : List Event) : Prop where
  given : plan.source = some source
  acquired : services.cache.acquire source world = (answer, mid)
  worked : Worked world mid (services.cache.target? world source) events

inductive Course (services : Services) (plan : Plan) (user : Option Text) (keepOwner : Bool)
    (invocation : Option Path → Invocation) (world : World) :
    Except Failure (Option Outcome) × World → List Event → Prop
  | bare (none : plan.source = none) :
      Course services plan user keepOwner invocation world
        ((services.run (invocation .none) world).1.map some, (services.run (invocation .none) world).2)
        (services.running (invocation .none) world)
  | unacquired {source : Source} {failure : Failure} {mid : World} {events : List Event}
      (acquired : Acquired services plan world source (.error failure) mid events) :
      Course services plan user keepOwner invocation world (.error failure, mid) events
  | missing {source : Source} {mid : World} {events : List Event}
      (acquired : Acquired services plan world source (.ok none) mid events) :
      Course services plan user keepOwner invocation world (.ok none, mid) events
  | direct {source : Source} {path : Path} {mid : World} {events : List Event}
      (acquired : Acquired services plan world source (.ok (some path)) mid events)
      (own : user = none ∨ keepOwner = true) :
      Course services plan user keepOwner invocation world
        ((services.run (invocation (some path)) mid).1.map some, (services.run (invocation (some path)) mid).2)
        (events ++ services.running (invocation (some path)) mid)
  | unmade {source : Source} {path : Path} {mid : World} {fault : Fault} {events : List Event}
      (acquired : Acquired services plan world source (.ok (some path)) mid events) :
      Course services plan user keepOwner invocation world (.error (.file mid.temporaryFolder fault), mid) events
  | unfilled {source : Source} {path copy : Path} {fresh : Bytes} {folder : Location} {mid : World}
      {fault : Fault} {events : List Event}
      (acquired : Acquired services plan world source (.ok (some path)) mid events)
      (made : Temporary.Made mid path copy folder fresh)
      (shape : ∃ number, fresh = ScopedCopy.nameStart ++ serial number ++ ScopedCopy.nameEnding) :
      Course services plan user keepOwner invocation world
        (.error (.file path fault), mid.moved mid.disk [.made copy]) (events ++ [.made copy])
  | unowned {source : Source} {path copy : Path} {name : Text} {fresh : Bytes} {folder : Location} {file : File}
      {mid filled owned : World} {failure : Failure} {events : List Event}
      (acquired : Acquired services plan world source (.ok (some path)) mid events)
      (isFilled : ScopedCopy.Filled mid path copy folder fresh file filled)
      (handed : ScopedCopy.handOver services.ownership copy name filled = (.error failure, owned))
      (asked : user = some name) (placed : copy = Temporary.pathIn mid mid.temporaryFolder fresh) :
      Course services plan user keepOwner invocation world (.error failure, Temporary.remove copy owned)
        (events ++ ScopedCopy.handing copy name file filled owned)
  | copied {source : Source} {path copy : Path} {name : Text} {fresh : Bytes} {folder : Location} {file : File}
      {mid filled owned : World} {events : List Event}
      (acquired : Acquired services plan world source (.ok (some path)) mid events)
      (asked : user = some name) (changes : keepOwner = false)
      (isFilled : ScopedCopy.Filled mid path copy folder fresh file filled)
      (placed : copy = Temporary.pathIn mid mid.temporaryFolder fresh)
      (handed : ScopedCopy.handOver services.ownership copy name filled = (.ok (), owned)) :
      Course services plan user keepOwner invocation world
        ((services.run (invocation (some copy)) owned).1.map some,
          Temporary.remove copy (services.run (invocation (some copy)) owned).2)
        (events ++ ScopedCopy.handing copy name file filled owned ++
          services.running (invocation (some copy)) owned)

theorem useCopy_course {services : Services} {plan : Plan} {invocation : Option Path → Invocation}
    {world mid : World} {source : Source} {path : Path} {events : List Event}
    (acquired : Acquired services plan world source (.ok (some path)) mid events) (name : Text) :
    let used := ScopedCopy.use path name services.ownership (fun copy => services.run (invocation (some copy))) mid
    ∃ events, Course services plan (some name) false invocation world (used.1.map some, used.2) events := by
  intro used
  rw [show used = _ from ScopedCopy.use_apply _ _ _ _ _]
  clear_value used
  rcases ScopedCopy.useIn_cases mid.temporaryFolder path name services.ownership
    (fun copy => services.run (invocation (some copy))) mid with
    ⟨fault, ended⟩ | ⟨fault, copy, folder, fresh, made, shape, ended⟩ |
      ⟨copy, folder, fresh, file, filled, isFilled, placed, ended⟩
  · rw [ended]
    exact ⟨_, .unmade acquired⟩
  · rw [ended]
    exact ⟨_, .unfilled acquired made shape⟩
  · rw [ended, Step.thenTidy_apply]
    cases handed : ScopedCopy.handOver services.ownership copy name filled with
    | mk answer owned =>
        cases answer with
        | error failure =>
            rw [Step.bind_of_error handed]
            exact ⟨_, .unowned acquired isFilled handed rfl placed⟩
        | ok _ =>
            rw [Step.bind_of_ok handed]
            exact ⟨_, .copied acquired rfl rfl isFilled placed handed⟩

theorem withRequirements_course (services : Services) (plan : Plan) (user : Option Text) (keepOwner : Bool)
    (invocation : Option Path → Invocation) (world : World) :
    ∃ events, Course services plan user keepOwner invocation world
      (services.withRequirements plan user keepOwner (fun path => services.run (invocation path)) world)
      events := by
  unfold withRequirements
  cases given : plan.source with
  | none =>
      simp only [Step.bind_pure_apply]
      exact ⟨_, .bare given⟩
  | some source =>
      simp only []
      obtain ⟨events, worked⟩ := services.cache.acquire_worked source world
      cases acquired : services.cache.acquire source world with
      | mk answer mid =>
          rw [acquired] at worked
          cases answer with
          | error failure =>
              rw [Step.bind_of_error acquired]
              exact ⟨_, .unacquired ⟨given, acquired, worked⟩⟩
          | ok answer =>
              rw [Step.bind_of_ok acquired]
              cases answer with
              | none => exact ⟨_, .missing ⟨given, acquired, worked⟩⟩
              | some path =>
                  cases user with
                  | none =>
                      simp only [Step.bind_pure_apply]
                      exact ⟨_, .direct ⟨given, acquired, worked⟩ (Or.inl rfl)⟩
                  | some name =>
                      cases keepOwner with
                      | true =>
                          simp only [if_true, Step.bind_pure_apply]
                          exact ⟨_, .direct ⟨given, acquired, worked⟩ (Or.inr rfl)⟩
                      | false =>
                          simp only [Bool.false_eq_true, if_false, Step.bind_pure_apply]
                          exact useCopy_course ⟨given, acquired, worked⟩ name

@[simp] theorem remove_events (path : Path) (world : World) :
    (Temporary.remove path world).events = world.events := by
  unfold Temporary.remove
  split <;> rfl

theorem Course.events_eq {services : Services} {plan : Plan} {user : Option Text} {keepOwner : Bool}
    {invocation : Option Path → Invocation} {world : World} {ended : Except Failure (Option Outcome) × World}
    {events : List Event} (course : Course services plan user keepOwner invocation world ended events) :
    ended.2.events = world.events ++ events := by
  cases course with
  | bare none => exact run_events _ _ _
  | unacquired acquired => exact acquired.worked.events_eq
  | missing acquired => exact acquired.worked.events_eq
  | direct acquired own => rw [run_events, acquired.worked.events_eq, List.append_assoc]
  | unmade acquired => exact acquired.worked.events_eq
  | unfilled acquired made shape => rw [World.moved_events, acquired.worked.events_eq, List.append_assoc]
  | unowned acquired isFilled handed =>
      rw [remove_events, (isFilled.handed handed).1, World.moved_events, acquired.worked.events_eq,
        List.append_assoc]
      rfl
  | @copied _ _ copy _ _ _ _ _ _ owned events acquired asked changes isFilled placed handed =>
      have told := congrArg World.events (isFilled.handed handed).1
      rw [World.moved_events, acquired.worked.events_eq] at told
      rw [remove_events, run_events, told]
      simp only [List.append_assoc]

end Services

namespace Pip

def invocationOf (program : Path) (activation : Option Path) (plan : Plan) (folder : Option Path)
    (user : Option Text) (requirement : Option Path) : Invocation where
  command := { activation, program, arguments := plan.arguments requirement }
  folder
  user

def shownSource (plan : Plan) : Text := (plan.source.map Source.shown).getD []

def installAnswer (plan : Plan) : Option Outcome → Except Failure InstallResult
  | some outcome => .ok (.completed outcome)
  | none => .ok (.requirementsMissing (shownSource plan))

def uninstallAnswer (plan : Plan) : Option Outcome → Except Failure Outcome
  | some outcome => .ok outcome
  | none => .error (.requirementsMissing (shownSource plan))

def carriedOut {α : Type} (services : Services) (plan : Plan) (user : Option Text) (keepOwner : Bool)
    (invocation : Option Path → Invocation) (answer : Option Outcome → Except Failure α) (world : World) :
    Except Failure α × World :=
  let driven := services.withRequirements plan user keepOwner (fun path => services.run (invocation path)) world
  (driven.1.bind answer, driven.2)

theorem install_cases (services : Services) (request : InstallRequest) (world : World) :
    (∃ failure, failure.isRefusal = true ∧ install services request world = (.error failure, world)) ∨
    ∃ program activation plan, request.plan world = .ok plan ∧
      install services request world = carriedOut services plan request.user request.keepOwner
        (invocationOf program activation plan request.folder request.user) (installAnswer plan) world := by
  unfold install
  simp only [Step.bind_apply, Step.check_apply]
  cases located : Locate.pip world services.layout request.chosenProgram with
  | error failure => exact Or.inl ⟨failure, Locate.refuses_pip _ _ _ failure located, rfl⟩
  | ok program =>
      simp only []
      cases activated : installActivation world services.layout request with
      | error failure => exact Or.inl ⟨failure, refuses_activation _ _ _ failure activated, rfl⟩
      | ok activation =>
          simp only []
          cases planned : request.plan world with
          | error failure => exact Or.inl ⟨failure, request.refuses_plan _ failure planned, rfl⟩
          | ok plan =>
              refine Or.inr ⟨program, activation, plan, rfl, ?_⟩
              simp only [carriedOut, invocationOf]
              generalize services.withRequirements plan _ _ _ world = driven
              obtain ⟨answer, after⟩ := driven
              rcases answer with failure | answer
              · rfl
              · cases answer <;> rfl

theorem uninstall_cases (services : Services) (request : UninstallRequest) (world : World) :
    (∃ failure, failure.isRefusal = true ∧ uninstall services request world = (.error failure, world)) ∨
    ∃ program plan, request.plan world = .ok plan ∧
      uninstall services request world = carriedOut services plan request.user request.keepOwner
        (invocationOf program none plan request.folder request.user) (uninstallAnswer plan) world := by
  unfold uninstall
  simp only [Step.bind_apply, Step.check_apply]
  cases located : Locate.pip world services.layout request.program with
  | error failure => exact Or.inl ⟨failure, Locate.refuses_pip _ _ _ failure located, rfl⟩
  | ok program =>
      simp only []
      cases planned : request.plan world with
      | error failure => exact Or.inl ⟨failure, request.refuses_plan _ failure planned, rfl⟩
      | ok plan =>
          refine Or.inr ⟨program, plan, rfl, ?_⟩
          simp only [carriedOut, invocationOf]
          generalize services.withRequirements plan _ _ _ world = driven
          obtain ⟨answer, after⟩ := driven
          rcases answer with failure | answer
          · rfl
          · cases answer <;> rfl

def listed {α : Type} (shown : Text → α) (command : Command) (outcome : Outcome) : Except Failure α :=
  if outcome.code = 0 then .ok (shown outcome.output)
  else .error (.pipFailed command.shown outcome.code outcome.diagnostics)

theorem listing_cases (services : Services) (context : Context) (world : World) :
    (∃ failure, failure.isRefusal = true ∧ listing services context world = (.error failure, world)) ∨
    ∃ invocation, listing services context world =
      ((services.run invocation world).1.bind (listed id invocation.command),
        (services.run invocation world).2) := by
  unfold listing
  simp only [Step.bind_apply, Step.check_apply]
  cases located : Locate.pip world services.layout context.program with
  | error failure => exact Or.inl ⟨failure, Locate.refuses_pip _ _ _ failure located, rfl⟩
  | ok program =>
      let command : Command := { program, arguments := ["freeze"] }
      refine Or.inr ⟨{ command, folder := context.folder, user := context.user }, ?_⟩
      simp only [command]
      rcases services.run _ world with ⟨answer, after⟩
      cases answer with
      | error failure => rfl
      | ok outcome =>
          by_cases zero : outcome.code = 0 <;> simp [Except.bind, listed, Outcome.succeeded, zero]

theorem freeze_world (services : Services) (context : Context) (world : World) :
    (freeze services context world).2 = (listing services context world).2 :=
  congrArg Prod.snd (Step.bind_pure_apply Text.lines (listing services context) world)

theorem list_world (services : Services) (wanted : Option Text) (context : Context) (world : World) :
    (list services wanted context world).2 = (listing services context world).2 :=
  congrArg Prod.snd (Step.bind_pure_apply _ (listing services context) world)

end Pip

end PipDriver
