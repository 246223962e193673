import PipDriver.Disk.Find
import PipDriver.Shell.Builtin.Options

/-!
The commands of a shell for its working folder. The shell remembers the way it came, links included.
-/

namespace PipDriver.Shell.Builtin

def climb (names : List Text) : List Text → List Text
  | [] => names
  | ['.'] :: rest => climb names rest
  | ['.', '.'] :: rest => climb names.dropLast rest
  | name :: rest => climb (names ++ [name]) rest

def wayTo (current path : Text) : Text :=
  let names (text : Text) : List Text := (Text.fields '/' text).filter (· ≠ [])
  let isAbsolute := path.head? = some '/'
  let root : Text :=
    if isAbsolute then
      (match path with
        | '/' :: '/' :: '/' :: _ => ['/']
        | '/' :: '/' :: _ => ['/', '/']
        | _ => ['/'])
    else if ['/', '/'].isPrefixOf current then ['/', '/'] else ['/']
  let start := if isAbsolute then [] else names current
  root ++ ['/'].intercalate (climb start (names path))

def standsAlone (path : Text) : Bool :=
  match path with
  | '/' :: _ => true
  | ['.'] => true
  | '.' :: '/' :: _ => true
  | ['.', '.'] => true
  | '.' :: '.' :: '/' :: _ => true
  | _ => false

def physicalWay (state : State) : Text := (Host.pathBytes state.folder).bytewise

def exportAs (name value : Text) : Action Unit := do
  Action.assign name (some value)
  modify fun state => state.exporting name

def goTo (physical : Bool) (path : Text) : Action Bool := do
  let state ← get
  let target := if physical then path else wayTo state.way path
  match state.machine.disk.folderAt state.folder (.ofBytewise target) with
  | .error _ => return false
  | .ok folder =>
    let moved := { state with folder }
    set moved
    let way := if physical then physicalWay moved else target
    exportAs "OLDPWD" state.way
    exportAs "PWD" way
    modify fun state => { state with way }
    return true

def isPhysical (options : List (Char × Text)) : Bool :=
  options.getLast?.any fun option => option.1 = 'P'

def changeFolder (arguments : List Text) : Action Nat := do
  let (options, words) ← readOptions ['L', 'P'] [] arguments
  let physical := isPhysical options
  let state ← get
  let goesBack := words.head? = some ['-']
  let asked := match words.head? with
    | none => (state.valueOf? "HOME").getD []
    | some word => if goesBack then (state.valueOf? "OLDPWD").getD [] else word
  let above : List Text :=
    if standsAlone asked then [] else Text.fields ':' ((state.valueOf? "CDPATH").getD [])
  let dest : Text := if asked = [] then ['.'] else asked
  let paths := above.map fun folder =>
    (if folder = [] then dest else folder ++ '/' :: dest, !folder.isEmpty)
  let found := paths.find? fun (path, _) => state.machine.disk.isFolder state.folder (.ofBytewise path)
  let (path, isElsewhere) := found.getD (dest, false)
  if ← goTo physical path then
    let after ← get
    if goesBack || isElsewhere then Action.display (after.way ++ ['\n']) else return 0
  else Action.fail ("can't cd to " ++ dest)

def printFolder (arguments : List Text) : Action Nat := do
  let (options, _) ← readOptions ['L', 'P'] [] arguments
  let state ← get
  Action.display ((if isPhysical options then physicalWay state else state.way) ++ ['\n'])

end PipDriver.Shell.Builtin
