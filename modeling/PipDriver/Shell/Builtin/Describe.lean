import PipDriver.Shell.Builtin.Names
import PipDriver.Shell.Grammar
import PipDriver.Shell.Search

/-!
The commands of a shell that say what a command would be.
-/

namespace PipDriver.Shell.Builtin

def regularCommands : List Text :=
  ["alias", "bg", "cd", "chdir", "command", "echo", "false", "fg", "getopts", "hash", "jobs", "kill",
   "printf", "pwd", "read", "test", "[", "true", "type", "ulimit", "umask", "unalias", "wait"]

inductive Meaning
  | keyword
  | alias (value : Text)
  | function
  | special
  | regular
  | program (path : Text) (tracked : Bool)
  | unknown

def meaning (state : State) (path : Option Text) (name : Text) : Meaning :=
  if name ∈ reservedWords then .keyword
  else match state.aliases.lookup name with
    | some value => .alias value
    | none =>
      if (state.function? name).isSome then .function
      else if name ∈ specialCommands then .special
      else if name ∈ regularCommands then .regular
      else if '/' ∈ name then
        if (state.machine.disk.entryAt state.folder (.ofBytewise name)).toOption.isSome then
          .program name false
        else .unknown
      else match (if path.isNone then state.tracked.lookup name else none) with
        | some place => .program place true
        | none =>
          match findProgram state (path.getD (searchPath state)) name with
          | .ok place => .program place false
          | .error _ => .unknown

def findMeaning (path : Option Text) (name : Text) : Action Meaning := do
  let state ← get
  let found := meaning state path name
  match found with
  | .program _ false => if path.isNone && '/' ∉ name then discard (track (searchPath state) name)
  | _ => pure ()
  return found

def describe (path : Option Text) (name : Text) : Action Nat := do
  let told (text : Text) : Action Nat := Action.display (name ++ text ++ ['\n'])
  match ← findMeaning path name with
  | .keyword => told " is a shell keyword"
  | .alias value => told (" is an alias for " ++ value)
  | .function => told " is a shell function"
  | .special => told " is a special shell builtin"
  | .regular => told " is a shell builtin"
  | .program place tracked =>
    told (" is".toList ++ (if tracked then " a tracked alias for".toList else []) ++ ' ' :: place)
  | .unknown =>
    discard (told ": not found")
    return 127

def locate (path : Option Text) (name : Text) : Action Nat := do
  match ← findMeaning path name with
  | .alias value => Action.display ("alias " ++ aliasLine (name, value))
  | .program place _ => Action.display (place ++ ['\n'])
  | .unknown => return 127
  | _ => Action.display (name ++ ['\n'])

def describeAll (arguments : List Text) : Action Nat :=
  arguments.foldlM (fun code word => do return code ||| (← describe none word)) 0

def lookUp (arguments : List Text) : Action Nat := do
  let (options, words) ← readOptions "pvV".toList [] arguments
  let path := if options.any fun option => option.1 = 'p' then some usualPath else none
  let asks (letter : Char) : Bool := options.any fun option => option.1 = letter
  match words with
  | [] => return 0
  | word :: _ =>
    if asks 'V' then describe path word
    else if asks 'v' then locate path word
    else return 0

def trackedRank (name : Text) : Nat :=
  ((name.headD '\x00').toNat * 16 + name.foldl (fun sum letter => sum + letter.toNat) 0) % 31

def tracked (arguments : List Text) : Action Nat := do
  let (options, words) ← readOptions ['r'] [] arguments
  if options ≠ [] then
    modify fun state => { state with tracked := [] }
    return 0
  else if words = [] then
    let sorted := (← get).tracked.mergeSort fun first second =>
      trackedRank first.1 ≤ trackedRank second.1
    Action.display (sorted.flatMap fun entry => entry.2 ++ ['\n'])
  else
    words.foldlM (fun code word => do
      let state ← get
      if word ∈ specialCommands || word ∈ regularCommands || (state.function? word).isSome then
        return code
      else if '/' ∈ word then return code
      else
        set { state with tracked := state.tracked.filter fun entry => entry.1 ≠ word }
        match ← track (searchPath state) word with
        | .ok _ => return code
        | .error fault =>
          Action.complain (word ++ ": " ++ startReason fault)
          return 1) 0

end PipDriver.Shell.Builtin
