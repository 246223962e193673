import PipDriver.Request.Plan

/-!
Requests to install packages.
-/

namespace PipDriver

structure InstallRequest where
  packages : Option ItemList := none
  requirements : Option Source := none
  /-- An older name for `program`, which counts only where `program` is not given. -/
  environment : Option Path := none
  program : Option Path := none
  log : Option Path := none
  proxy : Option Text := none
  timeout : Option Text := none
  editable : Option ItemList := none
  findLinks : Option Text := none
  indexUrl : Option Text := none
  extraIndexUrl : Option Text := none
  noIndex : Bool := false
  mirrors : Option ItemList := none
  build : Option Path := none
  target : Option Path := none
  download : Option Path := none
  downloadCache : Option Path := none
  source : Option Path := none
  upgrade : Bool := false
  forceReinstall : Bool := false
  ignoreInstalled : Bool := false
  existsAction : Option ExistsAction := none
  noDependencies : Bool := false
  noInstall : Bool := false
  noDownload : Bool := false
  installOptions : List Text := []
  user : Option Text := none
  keepOwner : Bool := false
  folder : Option Path := none
  activate : Bool := false
deriving DecidableEq, Repr

def givenPath (path : Option Path) : Option Path := path.filter fun path => !path.isEmpty

namespace InstallRequest

def chosenProgram (request : InstallRequest) : Option Path :=
  (givenPath request.program).or (givenPath request.environment)

def namesSomething (request : InstallRequest) : Bool :=
  ItemList.itemsOf request.packages ≠ [] || request.requirements.isSome ||
    ItemList.itemsOf request.editable ≠ []

def leadingParts (request : InstallRequest) : List Tokens :=
  [.ok ["install"], .packages request.packages, .editables request.editable]

def trailingParts (world : World) (request : InstallRequest) : List Tokens :=
  [.log world request.log,
   .text "--proxy" request.proxy,
   .timeout request.timeout,
   .address "--find-links" .findLinks request.findLinks,
   .indexConflict request.noIndex request.indexUrl request.extraIndexUrl,
   .address "--index-url" .indexUrl request.indexUrl,
   .address "--extra-index-url" .extraIndexUrl request.extraIndexUrl,
   .switch "--no-index" request.noIndex,
   .mirrors request.mirrors,
   .folder "--build" request.build,
   .folder "--target" request.target,
   .folder "--download" request.download,
   .folder "--download-cache" request.downloadCache,
   .folder "--source" request.source,
   .switch "--upgrade" request.upgrade,
   .switch "--force-reinstall" request.forceReinstall,
   .switch "--ignore-installed" request.ignoreInstalled,
   .existsAction request.existsAction,
   .switch "--no-deps" request.noDependencies,
   .switch "--no-install" request.noInstall,
   .switch "--no-download" request.noDownload,
   .installOptions request.installOptions]

def plan (world : World) (request : InstallRequest) : Except Failure Plan :=
  if request.namesSomething then
    Plan.ofParts request.leadingParts (request.trailingParts world) request.requirements
  else .error (.invalid .nothingToInstall)

end InstallRequest

end PipDriver
