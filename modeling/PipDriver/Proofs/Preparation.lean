import PipDriver.Proofs.Driving

/-!
A call in two halves: everything is checked in the world as it is, and then the plan is carried out.
-/

namespace PipDriver.Pip

structure Preparation where
  program : Path
  activation : Option Path
  plan : Plan

def prepareInstall (services : Services) (request : InstallRequest) (world : World) :
    Except Failure Preparation := do
  let program ← Locate.pip world services.layout request.chosenProgram
  let activation ← installActivation world services.layout request
  let plan ← request.plan world
  return ⟨program, activation, plan⟩

def prepareUninstall (services : Services) (request : UninstallRequest) (world : World) :
    Except Failure Preparation := do
  let program ← Locate.pip world services.layout request.program
  let plan ← request.plan world
  return ⟨program, none, plan⟩

def Preparation.invocation (ready : Preparation) (folder : Option Path) (user : Option Text)
    (requirement : Option Path) : Invocation :=
  invocationOf ready.program ready.activation ready.plan folder user requirement

theorem halves_of_bind {α β : Type} {answer : Except Failure α} {next : α → Except Failure β} {value : β}
    (given : (answer >>= next) = .ok value) : ∃ half, answer = .ok half ∧ next half = .ok value := by
  cases answer with
  | error failure => cases given
  | ok half => exact ⟨half, rfl, given⟩

section

variable (services : Services) (world : World)

theorem install_apply (request : InstallRequest) : install services request world =
    match prepareInstall services request world with
    | .error failure => (.error failure, world)
    | .ok ready => carriedOut services ready.plan request.user request.keepOwner
        (ready.invocation request.folder request.user) (installAnswer ready.plan) world := by
  unfold install prepareInstall
  simp only [Step.bind_apply, Step.check_apply]
  cases Locate.pip world services.layout request.chosenProgram with
  | error failure => rfl
  | ok program =>
      simp only []
      cases installActivation world services.layout request with
      | error failure => rfl
      | ok activation =>
          simp only []
          cases request.plan world with
          | error failure => rfl
          | ok plan =>
              change _ = carriedOut services plan _ _ (invocationOf program activation plan _ _) _ world
              simp only [carriedOut, invocationOf]
              generalize services.withRequirements plan _ _ _ world = driven
              obtain ⟨answer | answer, after⟩ := driven
              · rfl
              · cases answer <;> rfl

theorem prepared_install {request : InstallRequest} {ready : Preparation}
    (prepared : prepareInstall services request world = .ok ready) :
    Locate.pip world services.layout request.chosenProgram = .ok ready.program ∧
      installActivation world services.layout request = .ok ready.activation ∧
      request.plan world = .ok ready.plan := by
  obtain ⟨program, located, prepared⟩ := halves_of_bind prepared
  obtain ⟨activation, activated, prepared⟩ := halves_of_bind prepared
  obtain ⟨plan, planned, prepared⟩ := halves_of_bind prepared
  cases prepared
  exact ⟨located, activated, planned⟩

theorem uninstall_apply (request : UninstallRequest) : uninstall services request world =
    match prepareUninstall services request world with
    | .error failure => (.error failure, world)
    | .ok ready => carriedOut services ready.plan request.user request.keepOwner
        (ready.invocation request.folder request.user) (uninstallAnswer ready.plan) world := by
  unfold uninstall prepareUninstall
  simp only [Step.bind_apply, Step.check_apply]
  cases Locate.pip world services.layout request.program with
  | error failure => rfl
  | ok program =>
      simp only []
      cases request.plan world with
      | error failure => rfl
      | ok plan =>
          change _ = carriedOut services plan _ _ (invocationOf program none plan _ _) _ world
          simp only [carriedOut, invocationOf]
          generalize services.withRequirements plan _ _ _ world = driven
          obtain ⟨answer | answer, after⟩ := driven
          · rfl
          · cases answer <;> rfl

theorem prepared_uninstall {request : UninstallRequest} {ready : Preparation}
    (prepared : prepareUninstall services request world = .ok ready) :
    Locate.pip world services.layout request.program = .ok ready.program ∧ request.plan world = .ok ready.plan := by
  obtain ⟨program, located, prepared⟩ := halves_of_bind prepared
  obtain ⟨plan, planned, prepared⟩ := halves_of_bind prepared
  cases prepared
  exact ⟨located, planned⟩

def listingInvocation (context : Context) (program : Path) : Invocation where
  command := { program, arguments := ["freeze"] }
  folder := context.folder
  user := context.user

theorem listing_apply (context : Context) : listing services context world =
    match Locate.pip world services.layout context.program with
    | .error failure => (.error failure, world)
    | .ok program =>
      let ran := services.run (listingInvocation context program) world
      (ran.1.bind (listed id (listingInvocation context program).command), ran.2) := by
  unfold listing
  rw [Step.bind_apply, Step.check_apply]
  cases Locate.pip world services.layout context.program with
  | error failure => rfl
  | ok program =>
      simp only [Step.bind_apply, listingInvocation]
      rcases services.run _ world with ⟨failure | outcome, after⟩
      · rfl
      · by_cases zero : outcome.code = 0 <;> simp [Except.bind, listed, Outcome.succeeded, zero]

end

end PipDriver.Pip
