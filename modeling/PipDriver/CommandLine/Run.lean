import PipDriver.CommandLine.Task
import PipDriver.Config.Defaults
import PipDriver.Config.Load
import PipDriver.Freeze.Listing

/-!
Carrying out a command line: what is written, and the code that it ends with.
-/

namespace PipDriver.CommandLine

structure Exit where
  code : Nat
  output : Text := []
  diagnostics : Text := []
deriving DecidableEq, Repr

def failureCode : Nat := 1

def misuseCode : Nat := 2

def versionLine : Text := "pipctl 0.1.0\n"

def usageLine : Text := "usage: pipctl [--config FILE] install|uninstall|freeze|list ...\n"

def errorLine (message : Text) : Text := "error: " ++ message ++ ['\n']

namespace Exit

def ofStop : Stop → Exit
  | .help => { code := 0, output := usageLine }
  | .version => { code := 0, output := versionLine }
  | .misuse => { code := misuseCode, diagnostics := usageLine }

def ofMessage (message : Text) : Exit := { code := failureCode, diagnostics := errorLine message }

def ofFailure (failure : Failure) : Exit := ofMessage failure.message

def ofOutcome (outcome : Outcome) : Exit :=
  if outcome.succeeded then
    { code := 0, output := outcome.output, diagnostics := outcome.diagnostics }
  else
    { code := if 0 < outcome.code then outcome.code.toNat else failureCode
      output := outcome.output
      diagnostics := outcome.diagnostics ++
        errorLine ("pip exited with code " ++ Text.ofInt outcome.code) }

end Exit

def filled (context : Context) (config : Config) : Context where
  program := context.program.or config.program
  user := context.user.or config.user
  folder := context.folder.or config.folder

namespace Task

def carryOut (services : Services) (config : Config) : Task → Step Exit
  | .install request => do
    match ← Pip.install services (request.withDefaults config) with
    | .completed outcome => return .ofOutcome outcome
    | .requirementsMissing source => return .ofMessage (requirementsMissingMessage source)
  | .uninstall request => do
    return .ofOutcome (← Pip.uninstall services (request.withDefaults config))
  | .freeze context => do
    let listed ← Pip.freeze services (filled context config)
    return { code := 0, output := listed.flatMap fun line => line ++ ['\n'] }
  | .list wanted asObject context => do
    let versions ← Pip.list services wanted (filled context config)
    return { code := 0, output := if asObject then versions.object ++ ['\n'] else versions.lines }

end Task

def configOf (world : World) (path : Option Path) : Except Failure Config :=
  match path with
  | some path => Config.load world path
  | none => Config.find world

def cacheOf (config : Config) (host : Host) : Cache where
  root := config.cache.rootPath
  folder := config.cache.folderPath host

def Reading.carryOut (serve : Cache → Services) (reading : Reading) (path : Option Path) :
    Step Exit := do
  let config ← Step.check fun world => configOf world path
  let cache ← Step.look fun world => cacheOf config world.host
  reading.task.carryOut (serve cache) config

def run (serve : Cache → Services) (words : List Text) (world : World) : Exit × World :=
  match read words with
  | .error stop => (.ofStop stop, world)
  | .ok reading =>
    match reading.configPath (world.host.valueOf? Config.fileVariable) with
    | .error stop => (.ofStop stop, world)
    | .ok path =>
      match (reading.carryOut serve path).carryOut world with
      | (.ok exit, changed) => (exit, changed)
      | (.error failure, changed) => (.ofFailure failure, changed)

end PipDriver.CommandLine
