import PipDriver.Pip.Services
import PipDriver.Process.Launch
import PipDriver.Text.Blank

/-!
The services of the host itself: pip as a process of its own, and owners changed by the program for it.
-/

namespace PipDriver

namespace Host

def stamina : Nat := 100000

def longestWord : Nat := 131072

def wordFault? (words : List Bytes) (folder : Option Path) : Option Fault :=
  if words.any fun word => 0 ∈ word then some .nulInArgument
  else if folder.any fun path => 0 ∈ path.bytes then some .nulInArgument
  else none

def launchFirst (machine : Machine) (process : Process) (refusal : Fault) :
    List Text → Except Fault (Ending × Machine)
  | [] => .error refusal
  | path :: others =>
    match Launch.launch stamina machine process path with
    | .ok result => .ok result
    | .error fault =>
      if fault = .missing || fault = .notFolder then
        launchFirst machine process (if refusal = .denied then .denied else fault) others
      else if fault = .denied then launchFirst machine process .denied others
      else .error fault

def start (world : World) (words : List Bytes) (folder : Option Path) :
    Except Fault (Ending × Machine) :=
  match wordFault? words folder with
  | some fault => .error fault
  | none =>
    let place : Except Fault Location := match folder with
      | none => .ok world.host.folder
      | some path => world.disk.folderAt world.host.folder path
    match place with
    | .error fault => .error fault
    | .ok location =>
      let name := words.headD []
      if name = [] then .error .missing
      else if Bytes.slash ∉ name && Disk.longestName < name.length then .error .nameTooLong
      else if words.any fun word => longestWord ≤ word.length then .error .tooBig
      else
        let machine : Machine :=
          { disk := world.disk, programs := world.host.programs
            accounts := world.host.accounts, groups := world.host.groups }
        let environment := world.host.environment.map fun (name, value) => (name.bytewise, value.bytewise)
        let process : Process := { words := words.map Bytes.bytewise, folder := location, environment }
        launchFirst machine process .missing (Launch.placesOf environment name.bytewise)

def killedCode : Int := -1

def outcomeOf (ending : Ending) (machine : Machine) : Outcome where
  code := match ending with
    | .exited code => code
    | .killed _ => killedCode
  output := Text.ofUtf8Lenient machine.output
  diagnostics := Text.ofUtf8Lenient machine.diagnostics

/-- The world once a process has ended, in which the working folder is where it was moved to. -/
def takenOver (world : World) (machine : Machine) : World :=
  { world with
    disk := machine.disk
    host := { world.host with
      folder := Machine.follow machine.moves world.host.folder
      programs := machine.programs } }

abbrev Launcher := World → List Bytes → Option Path → Except Fault (Ending × Machine)

def executeWith (launcher : Launcher) (words : List Bytes) (folder : Option Path) (failure : Fault → Failure) :
    Step Outcome := fun world =>
  match launcher world words folder with
  | .error fault => (.error (failure fault), world)
  | .ok (ending, machine) => (.ok (outcomeOf ending machine), takenOver world machine)

def switchUserWords (user line : Text) : List Bytes := ["su", "-s", "/bin/sh", user, "-c", line]

def shellWords (line : Text) : List Bytes := ["sh", "-c", line]

def words (invocation : Invocation) : List Bytes :=
  match invocation.user with
  | some user => switchUserWords user invocation.command.shellText
  | none =>
    match invocation.command.activation with
    | some _ => shellWords invocation.command.shellText
    | none => invocation.command.program.bytes :: invocation.command.arguments.map Text.encoded

def runnerWith (launcher : Launcher) : Runner := fun invocation =>
  executeWith launcher (words invocation) invocation.folder (.notStarted invocation.command.program.text)

def changeOwnerWords (path : Path) (user : Text) : List Bytes := ["chown", user, path.bytes]

def ownershipWith (launcher : Launcher) : Ownership := fun path user => do
  let outcome ← executeWith launcher (changeOwnerWords path user) none fun fault =>
    .ownerKept path user fault.message
  if outcome.succeeded then return ()
  else throw (.ownerKept path user outcome.diagnostics.trim)

def servicesWith (launcher : Launcher) (cache : Cache) : Services where
  runner := runnerWith launcher
  ownership := ownershipWith launcher
  cache

def runner : Runner := runnerWith start

def ownership : Ownership := ownershipWith start

def services (cache : Cache) : Services := servicesWith start cache

end Host

end PipDriver
