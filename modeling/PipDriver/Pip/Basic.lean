import PipDriver.Freeze.Versions
import PipDriver.Pip.Services
import PipDriver.Request.Install
import PipDriver.Request.Uninstall

/-!
Installing, removing and listing packages. Every option is checked before a file is fetched or copied, and
pip runs at most once.
-/

namespace PipDriver

inductive InstallResult
  | completed (outcome : Outcome)
  | requirementsMissing (source : Text)
deriving DecidableEq, Repr

structure Context where
  program : Option Path := none
  user : Option Text := none
  folder : Option Path := none
deriving DecidableEq, Repr

namespace Pip

def installActivation (world : World) (layout : Layout) (request : InstallRequest) :
    Except Failure (Option Path) :=
  if request.activate && request.chosenProgram.isSome then
    Locate.activation world layout request.chosenProgram
  else .ok none

def install (services : Services) (request : InstallRequest) : Step InstallResult := do
  let program ← Step.check fun world => Locate.pip world services.layout request.chosenProgram
  let activation ← Step.check fun world => installActivation world services.layout request
  let plan ← Step.check request.plan
  let outcome ← services.withRequirements plan request.user request.keepOwner fun requirement =>
    services.run
      { command := { activation, program, arguments := plan.arguments requirement }
        folder := request.folder
        user := request.user }
  match outcome with
  | some outcome => return .completed outcome
  | none => return .requirementsMissing ((plan.source.map Source.shown).getD [])

def uninstall (services : Services) (request : UninstallRequest) : Step Outcome := do
  let program ← Step.check fun world => Locate.pip world services.layout request.program
  let plan ← Step.check request.plan
  let outcome ← services.withRequirements plan request.user request.keepOwner fun requirement =>
    services.run
      { command := { program, arguments := plan.arguments requirement }
        folder := request.folder
        user := request.user }
  match outcome with
  | some outcome => return outcome
  | none => throw (.requirementsMissing ((plan.source.map Source.shown).getD []))

def listing (services : Services) (context : Context) : Step Text := do
  let program ← Step.check fun world => Locate.pip world services.layout context.program
  let command : Command := { program, arguments := ["freeze"] }
  let outcome ← services.run { command, folder := context.folder, user := context.user }
  if outcome.succeeded then return outcome.output
  else throw (.pipFailed command.shown outcome.code outcome.diagnostics)

def freeze (services : Services) (context : Context) : Step (List Text) := do
  return (← listing services context).lines

def list (services : Services) (wanted : Option Text) (context : Context) : Step Versions := do
  return Versions.ofListing (← listing services context) wanted

end Pip

end PipDriver
