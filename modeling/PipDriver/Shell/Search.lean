import PipDriver.Shell.State

/-!
Looking for programs along the search path of a shell.
-/

namespace PipDriver.Shell

def usualPath : Text := "/usr/local/sbin:/usr/local/bin:/usr/sbin:/usr/bin:/sbin:/bin"

def searchPath (state : State) : Text := (state.valueOf? "PATH").getD []

def candidates (path name : Text) : List Text :=
  (Text.fields ':' path).map fun entry => if entry = [] then name else entry ++ '/' :: name

def findProgram (state : State) (path name : Text) : Except Fault Text :=
  let disk := state.machine.disk
  let rec look (reason : Fault) : List Text → Except Fault Text
    | [] => .error reason
    | candidate :: others =>
      match disk.entryAt state.folder (.ofBytewise candidate) with
      | .ok (.file file) => if file.executable then .ok candidate else look .denied others
      | .ok _ => look .denied others
      | .error fault => look (if fault = .missing || fault = .notFolder then reason else fault) others
  look .missing (candidates path name)

def findText? (state : State) (name : Text) : Option Text :=
  (candidates (searchPath state) name).find? fun candidate =>
    state.machine.disk.isFile state.folder (.ofBytewise candidate)

def startReason (fault : Fault) : Text :=
  if fault = .missing || fault = .notFolder then "not found" else fault.reason

def track (path name : Text) : Action (Except Fault Text) := do
  let state ← get
  let found := findProgram state path name
  match found with
  | .ok place =>
    if path = searchPath state && (state.tracked.lookup name).isNone then
      set { state with tracked := state.tracked ++ [(name, place)] }
  | .error _ => pure ()
  return found

end PipDriver.Shell
