import PipDriver.Request.Plan

/-!
Requests to remove packages.
-/

namespace PipDriver

structure UninstallRequest where
  packages : Option ItemList := none
  requirements : Option Source := none
  program : Option Path := none
  log : Option Path := none
  proxy : Option Text := none
  timeout : Option Text := none
  user : Option Text := none
  keepOwner : Bool := false
  folder : Option Path := none
deriving DecidableEq, Repr

namespace UninstallRequest

def namesSomething (request : UninstallRequest) : Bool :=
  ItemList.itemsOf request.packages ≠ [] || request.requirements.isSome

def leadingParts (request : UninstallRequest) : List Tokens :=
  [.ok ["uninstall", "-y"], .packages request.packages]

def trailingParts (world : World) (request : UninstallRequest) : List Tokens :=
  [.log world request.log, .text "--proxy" request.proxy, .timeout request.timeout]

def plan (world : World) (request : UninstallRequest) : Except Failure Plan :=
  if request.namesSomething then
    Plan.ofParts request.leadingParts (request.trailingParts world) request.requirements
  else .error (.invalid .nothingToRemove)

end UninstallRequest

end PipDriver
