import PipDriver.Proofs.Driving

/-!
What a call has done when it fails, and how often it has run pip: nothing is touched where a check finds fault,
and pip is run once just where the answer is that of the run.
-/

namespace PipDriver

/-- All that a runner reports as a failure of its own is that it could not start. -/
def Runner.OnlyFailsToStart (runner : Runner) : Prop :=
  ∀ invocation world failure, (runner invocation world).1 = .error failure → failure.isNotStarted = true

def Ownership.OnlyFailsInStorage (ownership : Ownership) : Prop :=
  ∀ path user world failure, (ownership path user world).1 = .error failure → failure.isStorage = true

def NeverRun (before after : World) : Prop :=
  ∃ events, after.events = before.events ++ events ∧ ∀ event ∈ events, event.run? = none

def RunOnce (services : Services) (invocation : Invocation) (before after : World)
    (answer : Except Failure Outcome) : Prop :=
  ∃ earlier bytes moment, (∀ event ∈ earlier, event.run? = none) ∧
    moment.events = before.events ++ earlier ++ [.invoked invocation bytes] ∧
    answer = (services.runner invocation moment).1 ∧
    after.events = moment.events ++ [.lent moment.disk (services.runner invocation moment).2.disk]

namespace Services

theorem runOnce {services : Services} {before mid after : World} {earlier : List Event} (invocation : Invocation)
    (told : mid.events = before.events ++ earlier) (quiet : ∀ event ∈ earlier, event.run? = none)
    (last : after.events = (services.run invocation mid).2.events) :
    RunOnce services invocation before after (services.run invocation mid).1 := by
  rw [run_apply] at last ⊢
  refine ⟨earlier, (requirementOf invocation.command).bind mid.read?,
    mid.moved mid.disk [.invoked invocation ((requirementOf invocation.command).bind mid.read?)],
    quiet, ?_, rfl, ?_⟩
  · rw [World.moved_events, told]
  · rw [last, World.moved_events, World.moved_events, List.append_assoc]
    rfl

theorem runOnce_now (services : Services) (invocation : Invocation) (world : World) :
    RunOnce services invocation world (services.run invocation world).2 (services.run invocation world).1 :=
  runOnce invocation (List.append_nil _).symm (by simp) rfl

theorem Course.runs {services : Services} {plan : Plan} {user : Option Text} {keepOwner : Bool}
    {invocation : Option Path → Invocation} {world : World} {ended : Except Failure (Option Outcome) × World}
    {events : List Event} (course : Course services plan user keepOwner invocation world ended events)
    (hands : services.ownership.OnlyFailsInStorage) :
    (NeverRun world ended.2 ∧
      (ended.1 = .ok none ∨ ∃ failure, failure.isStorage = true ∧ ended.1 = .error failure)) ∨
    ∃ requirement answer, RunOnce services (invocation requirement) world ended.2 answer ∧
      ended.1 = answer.map some := by
  have told := course.events_eq
  cases course with
  | bare bare => exact Or.inr ⟨none, _, runOnce_now _ _ _, rfl⟩
  | @unacquired source failure mid events acquired =>
      have failed := congrArg Prod.fst acquired.acquired
      exact Or.inl ⟨⟨events, told, acquired.worked.run?_eq_none⟩,
        Or.inr ⟨failure, Cache.acquire_failure failed, rfl⟩⟩
  | missing acquired => exact Or.inl ⟨⟨_, told, acquired.worked.run?_eq_none⟩, Or.inl rfl⟩
  | direct acquired own =>
      exact Or.inr ⟨_, _, runOnce _ acquired.worked.events_eq acquired.worked.run?_eq_none rfl, rfl⟩
  | unmade acquired =>
      exact Or.inl ⟨⟨_, told, acquired.worked.run?_eq_none⟩, Or.inr ⟨_, rfl, rfl⟩⟩
  | unfilled acquired made shape =>
      exact Or.inl ⟨⟨_, told, acquired.worked.quiet_append (by simp [Event.run?])⟩, Or.inr ⟨_, rfl, rfl⟩⟩
  | unowned acquired isFilled handed =>
      obtain ⟨-, asked, -, failed, -⟩ := isFilled.handed handed
      exact Or.inl ⟨⟨_, told, acquired.worked.quiet_append (by simp [ScopedCopy.handing, Event.run?])⟩,
        Or.inr ⟨_, hands _ _ asked _ failed.symm, rfl⟩⟩
  | copied acquired asked changes isFilled placed handed =>
      have before := congrArg World.events (isFilled.handed handed).1
      rw [World.moved_events, acquired.worked.events_eq, List.append_assoc] at before
      exact Or.inr ⟨_, _, runOnce _ before
        (acquired.worked.quiet_append (by simp [ScopedCopy.handing, Event.run?])) (remove_events _ _), rfl⟩

end Services

structure Settled {α : Type} (services : Services) (completed : Outcome → α) (world : World)
    (ended : Except Failure α × World) : Prop where
  untouched : ∀ failure, ended.1 = .error failure → failure.isRefusal = true → ended.2 = world
  runs : (NeverRun world ended.2 ∧ (∀ outcome, ended.1 ≠ .ok (completed outcome)) ∧
      ∀ failure, ended.1 = .error failure → failure.isNotStarted = false) ∨
    ∃ invocation answer, RunOnce services invocation world ended.2 answer ∧ ended.1 = answer.map completed

theorem settled_of_refusal {α : Type} {services : Services} {completed : Outcome → α} {failure : Failure}
    (refusal : failure.isRefusal = true) (world : World) :
    Settled services completed world (.error failure, world) where
  untouched := fun _ _ _ => rfl
  runs := by
    refine Or.inl ⟨⟨[], by simp, by simp⟩, by simp, ?_⟩
    rintro _ ⟨⟩
    exact Failure.not_notStarted_of_refusal refusal

def Listed {α : Type} (services : Services) (shown : Text → α) (world : World)
    (ended : Except Failure α × World) : Prop :=
  (∃ failure, failure.isRefusal = true ∧ ended = (.error failure, world)) ∨
  ∃ invocation answer, RunOnce services invocation world ended.2 answer ∧
    ended.1 = answer.bind (Pip.listed shown invocation.command)

theorem Listed.map {α : Type} {services : Services} {world : World} {answer : Except Failure Text} {after : World}
    (called : Listed services id world (answer, after)) (shown : Text → α) :
    Listed services shown world (answer.map shown, after) := by
  rcases called with ⟨failure, refusal, ended⟩ | ⟨invocation, ran, once, ended⟩
  · cases ended
    exact Or.inl ⟨failure, refusal, rfl⟩
  · refine Or.inr ⟨invocation, ran, once, ?_⟩
    simp only at ended
    subst ended
    cases ran with
    | error failure => rfl
    | ok outcome =>
        simp only [Except.bind, Pip.listed]
        split <;> rfl

namespace Pip

theorem settled_carriedOut {α : Type} {services : Services} {plan : Plan} {user : Option Text} {keepOwner : Bool}
    {invocation : Option Path → Invocation} {answer : Option Outcome → Except Failure α}
    {completed : Outcome → α} {world : World}
    (starts : services.runner.OnlyFailsToStart) (hands : services.ownership.OnlyFailsInStorage)
    (whole : ∀ outcome, answer (some outcome) = .ok (completed outcome))
    (apart : ∀ outcome, answer none ≠ .ok (completed outcome))
    (kind : ∀ failure, answer none = .error failure → failure.isRefusal = false ∧ failure.isNotStarted = false) :
    Settled services completed world (carriedOut services plan user keepOwner invocation answer world) := by
  obtain ⟨events, course⟩ := services.withRequirements_course plan user keepOwner invocation world
  have runs := course.runs hands
  simp only [carriedOut]
  generalize services.withRequirements plan user keepOwner _ world = driven at runs
  obtain ⟨driven, after⟩ := driven
  rcases runs with ⟨never, rfl | ⟨failure, storage, rfl⟩⟩ | ⟨requirement, ran, once, rfl⟩
  · constructor
    · intro failure failed refusal
      simp [(kind failure failed).1] at refusal
    · exact Or.inl ⟨never, apart, fun failure failed => (kind failure failed).2⟩
  · have kinds := Failure.not_refusal_of_storage storage
    constructor
    · rintro _ ⟨⟩ refusal
      simp [kinds.1] at refusal
    · refine Or.inl ⟨never, by simp [Except.bind], ?_⟩
      rintro _ ⟨⟩
      exact kinds.2
  · have same : (ran.map some).bind answer = ran.map completed := by
      cases ran with
      | error failure => rfl
      | ok outcome => exact whole outcome
    constructor
    · intro failure failed refusal
      cases ran with
      | error own =>
          cases failed
          obtain ⟨-, -, moment, -, -, answered, -⟩ := once
          simp [Failure.not_refusal_of_notStarted (starts _ moment _ answered.symm)] at refusal
      | ok outcome => cases (whole outcome).symm.trans failed
    · exact Or.inr ⟨invocation requirement, ran, once, same⟩

theorem settled_install {services : Services} (starts : services.runner.OnlyFailsToStart)
    (hands : services.ownership.OnlyFailsInStorage) (request : InstallRequest) (world : World) :
    Settled services .completed world (install services request world) := by
  rcases install_cases services request world with
    ⟨failure, refusal, ended⟩ | ⟨program, activation, plan, planned, ended⟩
  · rw [ended]
    exact settled_of_refusal refusal world
  · rw [ended]
    exact settled_carriedOut starts hands (fun _ => rfl) (by simp [installAnswer]) (by simp [installAnswer])

theorem settled_uninstall {services : Services} (starts : services.runner.OnlyFailsToStart)
    (hands : services.ownership.OnlyFailsInStorage) (request : UninstallRequest) (world : World) :
    Settled services id world (uninstall services request world) := by
  rcases uninstall_cases services request world with ⟨failure, refusal, ended⟩ | ⟨program, plan, planned, ended⟩
  · rw [ended]
    exact settled_of_refusal refusal world
  · rw [ended]
    refine settled_carriedOut starts hands (fun _ => rfl) (by simp [uninstallAnswer]) ?_
    rintro _ ⟨⟩
    exact ⟨rfl, rfl⟩

theorem listed_listing (services : Services) (context : Context) (world : World) :
    Listed services id world (listing services context world) := by
  rcases listing_cases services context world with ⟨failure, refusal, ended⟩ | ⟨invocation, ended⟩
  · exact Or.inl ⟨failure, refusal, ended⟩
  · rw [ended]
    exact Or.inr ⟨invocation, _, services.runOnce_now invocation world, rfl⟩

theorem listed_freeze (services : Services) (context : Context) (world : World) :
    Listed services Text.lines world (freeze services context world) := by
  have called := listed_listing services context world
  have mapped : freeze services context world =
      ((listing services context world).1.map Text.lines, (listing services context world).2) :=
    Step.bind_pure_apply _ _ _
  rw [mapped]
  exact called.map Text.lines

theorem listed_list (services : Services) (wanted : Option Text) (context : Context) (world : World) :
    Listed services (fun listing => Versions.ofListing listing wanted) world
      (list services wanted context world) := by
  have called := listed_listing services context world
  have mapped : list services wanted context world =
      ((listing services context world).1.map fun listing => Versions.ofListing listing wanted,
        (listing services context world).2) :=
    Step.bind_pure_apply (fun listing => Versions.ofListing listing wanted) _ _
  rw [mapped]
  exact called.map _

end Pip

/-- Every call: a check that finds fault leaves the world untouched, there is one run at most and just where the
answer is its own, and a listing whose code is not zero fails with that code. -/
theorem calls_run_once_or_never (services : Services) (starts : services.runner.OnlyFailsToStart)
    (hands : services.ownership.OnlyFailsInStorage) (world : World) :
    (∀ request, Settled services .completed world (Pip.install services request world)) ∧
    (∀ request, Settled services id world (Pip.uninstall services request world)) ∧
    (∀ context, Listed services Text.lines world (Pip.freeze services context world)) ∧
    ∀ wanted context, Listed services (fun listing => Versions.ofListing listing wanted) world
      (Pip.list services wanted context world) := by
  refine ⟨?_, ?_, ?_, ?_⟩
  · exact fun request => Pip.settled_install starts hands request world
  · exact fun request => Pip.settled_uninstall starts hands request world
  · exact fun context => Pip.listed_freeze services context world
  · exact fun wanted context => Pip.listed_list services wanted context world

def sternServices : Services where
  runner := fun _ => pure { code := 3, output := [], diagnostics := "no" }
  ownership := fun path user => throw (.ownerKept path user "no")
  cache := { root := "srv", folder := "kept" }

def sternRequest : InstallRequest where
  packages := some (.joined "six")
  program := some "pip"

theorem calls_run_once_or_never_stern :
    let world : World := { disk := {}, host := { folder := [] } }
    (Pip.install sternServices sternRequest world).1 =
      .ok (.completed { code := 3, output := [], diagnostics := "no" }) ∧
    Settled sternServices .completed world (Pip.install sternServices sternRequest world) ∧
    Listed sternServices Text.lines world (Pip.freeze sternServices { program := some "pip" } world) := by
  intro world
  have starts : sternServices.runner.OnlyFailsToStart := by
    intro invocation world failure failed
    cases failed
  have hands : sternServices.ownership.OnlyFailsInStorage := by
    rintro path user world _ ⟨⟩
    rfl
  have calls := calls_run_once_or_never sternServices starts hands world
  exact ⟨ok_of_toOption (by decide +kernel), calls.1 _, calls.2.2.1 _⟩

end PipDriver
