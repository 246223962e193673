import PipDriver.Proofs.Likeness
import PipDriver.Proofs.Plans
import PipDriver.Proofs.Preparation
import PipDriver.Proofs.Requirement

/-!
Removing against installing: a request to remove packages and the request to install the same come to the same,
but for the first words for pip and for what is said of a requirements file that cannot be had.
-/

namespace PipDriver

namespace Tokens

theorem concat_append_idle (parts : List Tokens) (count : Nat) :
    concat (parts ++ List.replicate count (.ok [])) = concat parts := by
  induction parts with
  | nil =>
      induction count with
      | zero => rfl
      | succ count ih =>
          rw [List.nil_append] at ih
          rw [List.nil_append, List.replicate_succ]
          simp only [concat, ih]
          rfl
  | cons part rest ih =>
      cases part with
      | error failure => rfl
      | ok tokens => simp only [List.cons_append, concat, ih]

end Tokens

inductive Failure.Alike : Failure → Failure → Prop
  | same (failure : Failure) : Alike failure failure
  | refused {first second : Complaint} (field : first.field = second.field) (value : first.value = second.value) :
      Alike (.invalid first) (.invalid second)

def Counterparts (removing installing : List Text) : Prop :=
  ∃ rest : List Text, removing = ("uninstall" : Text) :: ("-y" : Text) :: rest ∧
    installing = ("install" : Text) :: rest

inductive Plan.Agree (requirements : Option Source) : Except Failure Plan → Except Failure Plan → Prop
  | accepted {removing installing : Plan} (own : removing.source = requirements)
      (other : installing.source = requirements)
      (arguments : ∀ requirement, Counterparts (removing.arguments requirement) (installing.arguments requirement)) :
      Agree requirements (.ok removing) (.ok installing)
  | refused {first second : Failure} (alike : first.Alike second) :
      Agree requirements (.error first) (.error second)

structure Invocation.Agree (request : UninstallRequest) (removing installing : Invocation) : Prop where
  activation : removing.command.activation = installing.command.activation
  program : removing.command.program = installing.command.program
  folders : removing.folder = request.folder ∧ installing.folder = request.folder
  users : removing.user = request.user ∧ installing.user = request.user
  arguments : Counterparts removing.command.arguments installing.command.arguments

inductive AnswersAgree (requirements : Option Source) : Except Failure Outcome → Except Failure InstallResult → Prop
  | completed (outcome : Outcome) : AnswersAgree requirements (.ok outcome) (.ok (.completed outcome))
  | missing {uri : Text} (remote : requirements = some (.remote uri)) :
      AnswersAgree requirements (.error (.requirementsMissing uri)) (.ok (.requirementsMissing uri))
  | failed {first second : Failure} (alike : first.Alike second) :
      AnswersAgree requirements (.error first) (.error second)

namespace UninstallRequest

/-- The request to install what this one removes, with nothing else set. -/
def asInstall (request : UninstallRequest) : InstallRequest where
  packages := request.packages
  requirements := request.requirements
  program := request.program
  log := request.log
  proxy := request.proxy
  timeout := request.timeout
  user := request.user
  keepOwner := request.keepOwner
  folder := request.folder

section

variable (world : World) (request : UninstallRequest)

theorem namesSomething_asInstall : request.asInstall.namesSomething = request.namesSomething :=
  Bool.or_false _

theorem trailingParts_asInstall : request.asInstall.trailingParts world =
    request.trailingParts world ++ List.replicate 19 (.ok []) := rfl

theorem plan_agrees : Plan.Agree request.requirements (request.plan world) (request.asInstall.plan world) := by
  unfold plan InstallRequest.plan
  rw [namesSomething_asInstall]
  cases request.namesSomething with
  | false => exact .refused (.refused rfl rfl)
  | true =>
      simp only [if_true, Plan.ofParts, trailingParts_asInstall, Tokens.concat_append_idle]
      cases Tokens.concat (request.trailingParts world) with
      | error failure => exact .refused (.same failure)
      | ok trailing =>
          refine .accepted rfl rfl fun requirement => ⟨_, rfl, ?_⟩
          rfl

theorem chosenProgram_asInstall (layout : Layout) :
    Locate.pip world layout request.asInstall.chosenProgram = Locate.pip world layout request.program := by
  have filtered : request.asInstall.chosenProgram.filter (fun path => !path.isEmpty) =
      request.program.filter fun path => !path.isEmpty := by
    simp [InstallRequest.chosenProgram, asInstall, givenPath, Option.filter_filter]
  simp only [Locate.pip, Locate.pipIn, filtered]

theorem prepared_agree (services : Services) :
    (∃ first second : Failure, first.Alike second ∧
      Pip.prepareUninstall services request world = .error first ∧
      Pip.prepareInstall services request.asInstall world = .error second) ∨
    ∃ program removing installing, Plan.Agree request.requirements (.ok removing) (.ok installing) ∧
      Pip.prepareUninstall services request world = .ok ⟨program, none, removing⟩ ∧
      Pip.prepareInstall services request.asInstall world = .ok ⟨program, none, installing⟩ := by
  unfold Pip.prepareUninstall Pip.prepareInstall
  rw [chosenProgram_asInstall]
  cases Locate.pip world services.layout request.program with
  | error failure => exact Or.inl ⟨failure, failure, .same failure, rfl, rfl⟩
  | ok program =>
      have agree := request.plan_agrees world
      generalize request.plan world = removing at agree ⊢
      generalize request.asInstall.plan world = installing at agree ⊢
      cases agree with
      | accepted own other arguments =>
          exact Or.inr ⟨program, _, _, .accepted own other arguments, rfl, rfl⟩
      | refused alike => exact Or.inl ⟨_, _, alike, rfl, rfl⟩

end

end UninstallRequest

theorem Invocation.Agree.reads {request : UninstallRequest} {removing installing : Invocation}
    (agree : Agree request removing installing) :
    Services.requirementOf removing.command = Services.requirementOf installing.command := by
  obtain ⟨activation, program, -, -, rest, first, second⟩ := agree
  simp only [Services.requirementOf, Command.tokens, Command.words, activation, program, first, second,
    List.findSome?_append]
  rfl

theorem Invocation.agree_of_arguments (request : UninstallRequest) (program : Path) {removing installing : Plan}
    {requirement : Option Path}
    (arguments : Counterparts (removing.arguments requirement) (installing.arguments requirement)) :
    Agree request (Pip.invocationOf program none removing request.folder request.user requirement)
      (Pip.invocationOf program none installing request.folder request.user requirement) :=
  ⟨rfl, rfl, ⟨rfl, rfl⟩, ⟨rfl, rfl⟩, arguments⟩

theorem Services.remote_of_missing {services : Services} {plan : Plan} {user : Option Text} {keepOwner : Bool}
    {use : Option Path → Step Outcome} {world : World}
    (missing : (services.withRequirements plan user keepOwner use world).1 = .ok none) :
    ∃ uri, plan.source = some (.remote uri) := by
  have done {step : Step Outcome} {world : World} : (step world).1.map some ≠ .ok none := by
    cases (step world).1 <;> simp [Except.map]
  unfold withRequirements at missing
  cases given : plan.source with
  | none =>
      simp only [given, Step.bind_pure_apply] at missing
      exact (done missing).elim
  | some source =>
      cases source with
      | remote uri => exact ⟨uri, rfl⟩
      | onHost path =>
          simp only [given] at missing
          rw [Step.bind_of_ok (show services.cache.acquire (.onHost path) world = (.ok (some path), world) from rfl)]
            at missing
          rcases user with _ | name
          · simp only [Step.bind_pure_apply] at missing
            exact (done missing).elim
          · rcases keepOwner with _ | _
            · simp only [Step.bind_pure_apply, Bool.false_eq_true, if_false] at missing
              exact (done missing).elim
            · simp only [Step.bind_pure_apply, if_true] at missing
              exact (done missing).elim

namespace Pip

theorem answers_agree {requirements : Option Source} {removing installing : Plan}
    (own : removing.source = requirements) (other : installing.source = requirements)
    (answer : Except Failure (Option Outcome))
    (remote : answer = .ok none → ∃ uri, requirements = some (.remote uri)) :
    AnswersAgree requirements (answer.bind (uninstallAnswer removing)) (answer.bind (installAnswer installing)) := by
  rcases answer with failure | _ | outcome
  · exact .failed (.same failure)
  · obtain ⟨uri, given⟩ := remote rfl
    have missing := AnswersAgree.missing given
    simpa [Except.bind, uninstallAnswer, installAnswer, shownSource, own, other, given, Source.shown] using missing
  · exact .completed outcome

/-- A removal and the installation of the same: they are refused alike, ask for the same of others, run the same
program with arguments that differ in the subcommand only, and end alike. -/
theorem uninstall_agrees_with_install (services : Services) (request : UninstallRequest)
    (replies : services.runner.RepliesAlike (Invocation.Agree request)) (world : World) :
    Plan.Agree request.requirements (request.plan world) (request.asInstall.plan world) ∧
    AnswersAgree request.requirements (uninstall services request world).1
      (install services request.asInstall world).1 ∧
    world.Alike (Invocation.Agree request) (uninstall services request world).2
      (install services request.asInstall world).2 := by
  refine ⟨request.plan_agrees world, ?_⟩
  rw [uninstall_apply, install_apply]
  rcases request.prepared_agree world services with
    ⟨first, second, alike, refused, other⟩ | ⟨program, removing, installing, agree, ready, other⟩
  · rw [refused, other]
    exact ⟨.failed alike, .refl world⟩
  · rw [ready, other]
    cases agree with
    | accepted own others arguments =>
        have agree (requirement : Option Path) :=
          Invocation.agree_of_arguments request program (arguments requirement)
        have alike := EndsAlike.driven replies (own.trans others.symm) request.user request.keepOwner agree
          (fun requirement => (agree requirement).reads) world
        refine ⟨?_, alike.2⟩
        simp only [carriedOut, Preparation.invocation, UninstallRequest.asInstall]
        rw [← alike.1]
        exact answers_agree own others _ fun missing => own ▸ Services.remote_of_missing missing

def sharedRemoval : UninstallRequest where
  requirements := some (.remote "salt://a")
  program := some "pip"
  user := some "guest"

theorem uninstall_agrees_with_install_shared :
    calmServices.runner.RepliesAlike (Invocation.Agree sharedRemoval) ∧
    (uninstall calmServices sharedRemoval sharedWorld).2.events.filterMap Event.run? ≠ [] ∧
    Plan.Agree (some (.remote "salt://a")) (sharedRemoval.plan sharedWorld)
      (sharedRemoval.asInstall.plan sharedWorld) ∧
    AnswersAgree (some (.remote "salt://a")) (uninstall calmServices sharedRemoval sharedWorld).1
      (install calmServices sharedRemoval.asInstall sharedWorld).1 ∧
    sharedWorld.Alike (Invocation.Agree sharedRemoval) (uninstall calmServices sharedRemoval sharedWorld).2
      (install calmServices sharedRemoval.asInstall sharedWorld).2 := by
  have replies : calmServices.runner.RepliesAlike (Invocation.Agree sharedRemoval) := fun _ _ _ _ _ => ⟨rfl, rfl⟩
  exact ⟨replies, by decide +kernel, uninstall_agrees_with_install calmServices sharedRemoval replies sharedWorld⟩

end Pip

end PipDriver
