import PipDriver.Process.Escape
import PipDriver.Process.Basic
import PipDriver.Shell.Tree

/-!
What a shell knows while it runs, the ways in which a command may leave the ordinary course of things, and
the actions that everything else is made of.
-/

namespace PipDriver.Shell

structure Variable where
  name : Text
  value : Option Text
  exported : Bool := false
  readOnly : Bool := false
deriving DecidableEq, Repr

structure Function where
  name : Text
  line : Nat
  body : Script

inductive Progress (σ : Type)
  | ready (start : σ) (script : Script)
  | ended (ending : Ending) (sleeps : Bool)

structure Job (σ : Type) where
  /-- The place in the list of jobs, which counts from one. -/
  place : Nat
  number : Nat
  progress : Progress σ
  /-- Whether the shell has taken note of its end. -/
  noticed : Bool := false

inductive Kept
  | variable (name : Text) (old : Option Variable)
  | flags (old : List Char)
deriving DecidableEq, Repr

structure State where
  name : Text
  /-- The command of the shell, or the text read by one, that is being carried out. -/
  command : Option Text := none
  parameters : List Text := []
  bindings : List Variable := []
  functions : List Function := []
  aliases : List (Text × Text) := []
  folder : Location
  /-- How the working folder was reached. -/
  way : Text
  channels : Channels
  machine : Machine
  /-- The number that the parameter for it shows, the one of this very process, and that of its parent. -/
  number : Nat
  ownNumber : Nat
  parent : Nat
  /-- The code of the last command. -/
  code : Nat := 0
  /-- The code of the last command whose output was taken. -/
  takenCode : Nat := 0
  line : Nat := 0
  /-- The line on which the function that runs was defined. -/
  functionLine : Option Nat := none
  /-- How deep calls of functions are nested. -/
  calls : Nat := 0
  flags : List Char := []
  /-- Actions for signals; number zero stands for the end of the shell, no text for no action. -/
  traps : List (Nat × Text) := []
  /-- What variables and flags were before they became local, the innermost function first. -/
  frames : List (List Kept) := []
  loops : Nat := 0
  documents : List (Nat × Word) := []
  jobs : List (Job State) := []
  /-- The number of the process that was last put in the background. -/
  lastJob : Option Nat := none
  /-- The parameter that is read for options next, and how much of the one before it has been read. -/
  optionIndex : Nat := 1
  optionOffset : Option Nat := none
  /-- Names of programs that have been found on the search path, with their paths. -/
  tracked : List (Text × Text) := []
  /-- Permissions that new files do not get. -/
  mask : Nat := 18
  /-- The code from before an action for a signal began. -/
  savedCode : Option Nat := none

inductive Leave
  | breaks (count : Nat)
  | continues (count : Nat)
  | returns
  | fails
  | exits
  | killed (signal : Nat)
deriving DecidableEq, Repr

abbrev Action := ExceptT Leave (StateM State)

namespace State

/-- The state of a shell after others had the machine, with its working folder where it was moved to. -/
def after (state : State) (machine : Machine) : State :=
  { state with
    machine
    folder := Machine.follow (machine.moves.drop state.machine.moves.length) state.folder }

def find? (state : State) (name : Text) : Option Variable :=
  state.bindings.find? fun entry => entry.name = name

def valueOf? (state : State) (name : Text) : Option Text := (state.find? name).bind Variable.value

def put (state : State) (entry : Variable) : State :=
  if (state.find? entry.name).isSome then
    { state with
      bindings := state.bindings.map fun old => if old.name = entry.name then entry else old }
  else { state with bindings := state.bindings ++ [entry] }

def erase (state : State) (name : Text) : State :=
  { state with bindings := state.bindings.filter fun entry => entry.name ≠ name }

def exporting (state : State) (name : Text) : State :=
  { state with
    bindings := state.bindings.map fun entry =>
      if entry.name = name then { entry with exported := true } else entry }

def restore (state : State) : Kept → State
  | .variable _ (some entry) => state.put entry
  | .variable name none => state.erase name
  | .flags flags => { state with flags }

def hasFlag (state : State) (flag : Char) : Bool := flag ∈ state.flags

def nameRank (name : Text) : Nat :=
  ((name.headD '\x00').toNat * 16 + name.foldl (fun sum letter => sum + letter.toNat) 0) % 39

def environment (state : State) : List (Text × Text) :=
  let exported := state.bindings.filterMap fun entry =>
    if entry.exported then entry.value.map fun value => (entry.name, value) else none
  exported.mergeSort fun first second => nameRank first.1 ≤ nameRank second.1

def function? (state : State) (name : Text) : Option Function :=
  state.functions.find? fun entry => entry.name = name

def separators (state : State) : Text := (state.valueOf? "IFS").getD " \t\n"

def document (state : State) (number : Nat) : Word := (state.documents.lookup number).getD []

def hasTraps (state : State) : Bool := state.traps.any fun (_, action) => action ≠ []

end State

namespace Action

def emit (channel : Nat) (text : Text) : Action Bool := do
  let state ← get
  match state.machine.emit state.channels channel text.toBytes with
  | some machine =>
    set { state with machine }
    return true
  | none => return false

def complain (text : Text) : Action Unit := do
  let state ← get
  let command : Text := match state.command with
    | some name => name ++ ": "
    | none => []
  discard (emit 2 (state.name ++ ": " ++ Text.ofNat state.line ++ ": " ++ command ++ text ++ ['\n']))

def fail (text : Text) : Action α := do
  complain text
  modify fun state => { state with code := 2 }
  throw .fails

def setCode (code : Nat) : Action Unit := modify fun state => { state with code }

def deliver (report : Report) : Action Nat := do
  let (complaints, results) := report.written.partition Prod.fst
  let state ← get
  let machine := Report.deliver { written := complaints } state.channels state.machine
  set { state with machine }
  let bytes := results.foldl (fun bytes (_, more) => bytes ++ more) ByteArray.empty
  if bytes.size = 0 then return report.code
  else if ← emit 1 (Text.ofBytes bytes) then return report.code
  else
    let name := (← get).command.getD []
    complain (name ++ ": I/O error")
    return report.code ||| 1

def display (text : Text) : Action Nat := deliver (Report.shown text.toBytes)

def resetOptions (value : Text) : Action Unit := do
  if value.all Char.isDigit then
    let index := Escape.digitsValue 10 value
    modify fun state => { state with optionIndex := if index = 0 then 1 else index, optionOffset := none }
  else fail ("Illegal number: " ++ value)

def assign (name : Text) (value : Option Text) : Action Unit := do
  let state ← get
  let old := (state.find? name).getD { name, value := none }
  if old.readOnly then fail (name ++ ": is read only")
  if name = "OPTIND" then resetOptions (value.getD [])
  if name = "PATH" then modify fun state => { state with tracked := [] }
  modify fun state => state.put { old with value, exported := old.exported || state.hasFlag 'a' }

def lastingNames : List Text := ["IFS", "MAIL", "MAILPATH", "OPTIND", "PATH", "PS1", "PS2", "PS4"]

def unset (name : Text) : Action Unit := do
  match (← get).find? name with
  | some old =>
    if name ∈ lastingNames then assign name none
    else
      if old.readOnly then fail (name ++ ": is read only")
      modify fun state => state.erase name
  | none => return

def keep (kept : Kept) : Action Unit :=
  modify fun state =>
    match state.frames with
    | frame :: others => { state with frames := (kept :: frame) :: others }
    | [] => state

def assignLocally (name : Text) (value : Option Text) (exported : Bool) : Action Unit := do
  keep (.variable name ((← get).find? name))
  assign name value
  if exported then modify fun state => state.exporting name

def inFrame (action : Action α) : Action α := fun state =>
  let (result, after) := action { state with frames := [] :: state.frames }
  match after.frames with
  | frame :: others =>
    (result, frame.foldl State.restore { after with frames := others })
  | [] => (result, after)

def keepingChannels (numbers : List Nat) (action : Action α) : Action α := fun state =>
  let (result, after) := action state
  let isKept (entry : Nat × Nat) : Bool := entry.1 ∈ numbers
  let channels := state.channels.filter isKept ++ after.channels.filter fun entry => !isKept entry
  (result, { after with channels })

def underName (name : Text) (action : Action α) : Action α := fun state =>
  let (result, after) := action { state with command := some name }
  (result, { after with command := state.command })

def outcome (action : Action α) : Action (Except Leave α) := fun state =>
  let (result, after) := action state
  (.ok result, after)

end Action

end PipDriver.Shell
