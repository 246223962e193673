import PipDriver.Shell.Builtin.Settings

/-!
The commands of a shell for the names of variables, functions and aliases.
-/

namespace PipDriver.Shell.Builtin

def nameAndValue (word : Text) : Text × Option Text :=
  match Text.splitOnce ['='] word with
  | some (name, value) => (name, some value)
  | none => (word, none)

def checkName (name : Text) : Action Unit := do
  if !isName name then Action.fail (name ++ ": bad variable name")

def mark (name : Text) (change : Variable → Variable) : Action Unit :=
  modify fun state =>
    match state.find? name with
    | some entry => state.put (change entry)
    | none => state

def markNames (command : Text) (isMarked : Variable → Bool) (change : Variable → Variable)
    (arguments : List Text) : Action Nat := do
  let (options, words) ← readOptions ['p'] [] arguments
  if options ≠ [] || words = [] then
    Action.display (listVariables command ((← get).bindings.filter isMarked))
  else
    words.forM fun word => do
      let (name, value) := nameAndValue word
      let known := ((← get).find? name).isSome
      if value.isSome || !known then
        checkName name
        Action.assign name value
      mark name change
    return 0

def exportNames : List Text → Action Nat :=
  markNames "export" Variable.exported fun entry => { entry with exported := true }

def protectNames : List Text → Action Nat :=
  markNames "readonly" Variable.readOnly fun entry => { entry with readOnly := true }

def unsetNames (arguments : List Text) : Action Nat := do
  let (options, words) ← readOptions ['v', 'f'] [] arguments
  let asFunctions := options.getLast?.any fun option => option.1 = 'f'
  words.forM fun word => do
    if asFunctions then
      modify fun state =>
        { state with functions := state.functions.filter fun entry => entry.name ≠ word }
    else
      checkName word
      Action.unset word
  return 0

def makeLocal (arguments : List Text) : Action Nat := do
  let state ← get
  if state.frames = [] then Action.fail "not in a function"
  arguments.forM fun word => do
    if word = ['-'] then Action.keep (.flags (← get).flags)
    else
      let (name, value) := nameAndValue word
      let known := (← get).find? name
      if known.isNone then checkName name
      Action.keep (.variable name known)
      if value.isSome || known.isNone then Action.assign name value
  return 0

def aliasLine (entry : Text × Text) : Text := entry.1 ++ '=' :: singleQuoted entry.2 ++ ['\n']

def setAlias (state : State) (name value : Text) : State :=
  if state.aliases.any fun entry => entry.1 = name then
    { state with
      aliases := state.aliases.map fun entry => if entry.1 = name then (name, value) else entry }
  else { state with aliases := state.aliases ++ [(name, value)] }

def noAlias (command name : Text) : Action Unit :=
  discard (Action.emit 2 (command ++ ": " ++ name ++ " not found\n"))

def aliases (arguments : List Text) : Action Nat := do
  if arguments = [] then
    let sorted := (← get).aliases.mergeSort fun first second => State.nameRank first.1 ≤ State.nameRank second.1
    Action.display (sorted.flatMap aliasLine)
  else
    arguments.foldlM (fun code word => do
      match Text.splitOnce ['='] (word.drop 1) with
      | some (name, value) =>
        modify fun state => setAlias state (word.take 1 ++ name) value
        return code
      | none =>
        match (← get).aliases.lookup word with
        | some value =>
          discard (Action.display (aliasLine (word, value)))
          return code
        | none =>
          noAlias "alias" word
          return 1) 0

def unalias (arguments : List Text) : Action Nat := do
  let (options, words) ← readOptions ['a'] [] arguments
  if options ≠ [] then
    modify fun state => { state with aliases := [] }
    return 0
  else
    words.foldlM (fun code word => do
      let state ← get
      if state.aliases.any fun entry => entry.1 = word then
        set { state with aliases := state.aliases.filter fun entry => entry.1 ≠ word }
        return code
      else
        noAlias "unalias" word
        return 1) 0

end PipDriver.Shell.Builtin
