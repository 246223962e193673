import PipDriver.CommandLine.Reading
import PipDriver.Pip.Basic

/-!
What a command line asks for, once it has been read.
-/

namespace PipDriver.CommandLine

inductive Task
  | install (request : InstallRequest)
  | uninstall (request : UninstallRequest)
  | freeze (context : Context)
  | list (wanted : Option Text) (asObject : Bool) (context : Context)
deriving DecidableEq, Repr

namespace Given

def path? (given : Given) (setting : Setting) : Option Path := (given.text? setting).map Path.mk

def listOf (words : List Text) : Option ItemList := if words = [] then none else some (.many words)

def list? (given : Given) (setting : Setting) : Option ItemList := listOf (given.texts setting)

def action? (given : Given) : Option ExistsAction :=
  (given.text? .existsAction).bind fun text => (ExistsAction.parse text).toOption

def install (given : Given) : InstallRequest where
  packages := listOf given.operands
  requirements := (given.text? .requirements).map Source.parse
  environment := given.path? .environment
  program := given.path? .program
  log := given.path? .log
  proxy := given.text? .proxy
  timeout := given.text? .timeout
  editable := given.list? .editable
  findLinks := given.text? .findLinks
  indexUrl := given.text? .indexUrl
  extraIndexUrl := given.text? .extraIndexUrl
  noIndex := given.has .noIndex
  mirrors := given.list? .mirrors
  build := given.path? .build
  target := given.path? .target
  download := given.path? .download
  downloadCache := given.path? .downloadCache
  source := given.path? .source
  upgrade := given.has .upgrade
  forceReinstall := given.has .forceReinstall
  ignoreInstalled := given.has .ignoreInstalled
  existsAction := given.action?
  noDependencies := given.has .noDependencies
  noInstall := given.has .noInstall
  noDownload := given.has .noDownload
  installOptions := given.texts .installOption
  user := given.text? .user
  keepOwner := given.has .keepOwner
  folder := given.path? .folder
  activate := given.has .activate

def uninstall (given : Given) : UninstallRequest where
  packages := listOf given.operands
  requirements := (given.text? .requirements).map Source.parse
  program := given.path? .program
  log := given.path? .log
  proxy := given.text? .proxy
  timeout := given.text? .timeout
  user := given.text? .user
  keepOwner := given.has .keepOwner
  folder := given.path? .folder

def context (given : Given) : Context where
  program := given.path? .program
  user := given.text? .user
  folder := given.path? .folder

end Given

namespace Reading

def task (reading : Reading) : Task :=
  match reading.verb with
  | .install => .install reading.given.install
  | .uninstall => .uninstall reading.given.uninstall
  | .freeze => .freeze reading.given.context
  | .list => .list reading.given.operands.head? (reading.given.has .json) reading.given.context

/-- The configuration file that is asked for: behind the verb, ahead of it, or by a variable. A variable that
is empty is refused wherever it would stand in for the setting. -/
def configPath (reading : Reading) (named : Option Bytes) : Except Stop (Option Path) :=
  match reading.given.path? .config, reading.leading.path? .config with
  | some path, some _ => .ok (some path)
  | behind, ahead =>
    if named = some [] then .error .misuse
    else .ok (behind.or (ahead.or (named.map Path.ofBytes)))

end Reading

end PipDriver.CommandLine
