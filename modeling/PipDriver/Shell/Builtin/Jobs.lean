import PipDriver.Process.Signal
import PipDriver.Shell.Builtin.Options

/-!
The commands of a shell for signals and for processes in the background.
-/

namespace PipDriver.Shell.Builtin

def trapLine (trap : Nat × Text) : Text :=
  "trap -- " ++ singleQuoted trap.2 ++ ' ' :: Signal.name trap.1 ++ ['\n']

def setTrap (state : State) (signal : Nat) (action : Option Text) : State :=
  let others := state.traps.filter fun entry => entry.1 ≠ signal
  { state with traps := match action with
    | some text => (signal, text) :: others
    | none => others }

def setTraps (action : Option Text) : List Text → Action Nat
  | [] => return 0
  | word :: rest => do
    match Signal.read? word with
    | some signal =>
      modify fun state => setTrap state signal action
      setTraps action rest
    | none =>
      discard (Action.emit 2 ("trap: " ++ word ++ ": bad trap\n"))
      return 1

def trap (arguments : List Text) : Action Nat := do
  let (_, words) ← readOptions [] [] arguments
  match words with
  | [] =>
    let sorted := (← get).traps.mergeSort fun first second => first.1 ≤ second.1
    Action.display (sorted.flatMap trapLine)
  | [only] => setTraps none [only]
  | first :: rest =>
    if Signal.isNumber first && (Signal.read? first).isSome then setTraps none words
    else setTraps (if first = "-" then none else some first) rest

def killUsage : Text :=
  "Usage: kill [-s sigspec | -signum | -sigspec] [pid | job]... or\nkill -l [exitstatus]"

def listSignals (words : List Text) : Action Nat := do
  match words with
  | [] =>
    let names := (List.range (Signal.count - 1)).map fun number => Signal.name (number + 1) ++ ['\n']
    Action.display ("0\n" ++ names.flatten)
  | word :: _ =>
    let number ← plainNumber word
    let signal := if 128 < number then number - 128 else number
    if 0 < signal && signal < Signal.count then Action.display (Signal.name signal ++ ['\n'])
    else Action.fail ("invalid signal number or exit status: " ++ word)

def jobAt? (state : State) (name : Text) : Option (Job State) :=
  if name = [] || name = "%" || name = "+" then state.jobs.getLast?
  else if name.all Char.isDigit then
    state.jobs.find? fun job => job.place = Escape.digitsValue 10 name
  else none

def processNumber (word : Text) : Action Nat := do
  match word with
  | '%' :: name =>
    match jobAt? (← get) name with
    | some job => return job.number
    | none => Action.fail ("No such job: " ++ word)
  | _ => plainNumber word

def hitBy (signal : Nat) (job : Job State) : Job State :=
  let hit := { job with progress := .ended (.killed signal) false }
  if Signal.isIdle signal then job
  else match job.progress with
    | .ready _ _ => hit
    | .ended _ sleeps => if sleeps then hit else job

def send (signal number : Nat) : Action Bool := do
  let state ← get
  if number = state.ownNumber || number = state.number || number = state.parent then
    let machine := state.machine
    set { state with machine := { machine with signals := machine.signals ++ [(signal, number)] } }
    return true
  else
    match state.jobs.find? fun (job : Job State) => job.number = number && !job.noticed with
    | some job =>
      let hit := hitBy signal job
      modify fun state =>
        { state with jobs := state.jobs.map fun job => if job.number = number then hit else job }
      return true
    | none => return false

def sendAll (signal : Nat) (words : List Text) : Action Nat :=
  words.foldlM (fun code word => do
    let number ← processNumber word
    if ← send signal number then return code
    else
      Action.complain "No such process\n"
      return 1) 0

def kill (arguments : List Text) : Action Nat := do
  match arguments with
  | [] => Action.fail killUsage
  | ('-' :: name) :: rest =>
    match Signal.read? name with
    | some signal => if rest = [] then Action.fail killUsage else sendAll signal rest
    | none =>
      let (options, words) ← readOptions ['l'] ['s'] arguments
      let signals ← options.filterMapM fun (letter, value) => do
        if letter = 'l' then return none
        match Signal.read? value with
        | some signal => return some signal
        | none => Action.fail ("invalid signal number or name: " ++ value)
      let lists := options.any fun option => option.1 = 'l'
      if lists then listSignals words
      else if words = [] then Action.fail killUsage
      else sendAll (signals.getLast?.getD 15) words
  | words => sendAll 15 words

def endingCode : Ending → Nat
  | .exited code => code
  | .killed signal => Signal.code signal

def notice (number : Nat) : Action Unit :=
  modify fun state =>
    { state with
      jobs := state.jobs.map fun job => if job.number = number then { job with noticed := true } else job }

def report (ending : Ending) : Action Unit := do
  match ending with
  | .killed signal =>
    match Signal.describe? signal with
    | some text => discard (Action.emit 2 (text ++ ['\n']))
    | none => return
  | .exited _ => return

def wait (arguments : List Text) : Action Nat := do
  let (_, words) ← readOptions [] [] arguments
  if words = [] then
    modify fun state => { state with jobs := state.jobs.map fun job => { job with noticed := true } }
    return 0
  else
    words.foldlM (fun code word => do
      let number ← processNumber word
      let state ← get
      match state.jobs.find? fun (job : Job State) => job.number = number with
      | some { noticed, progress := .ended ending _, .. } =>
        if !noticed then report ending
        notice number
        return endingCode ending
      | _ => return code) 127

def dropNoticed (state : State) : State :=
  { state with jobs := state.jobs.filter fun job => !job.noticed }

def freePlace (state : State) : Nat :=
  let isFree (place : Nat) : Bool := state.jobs.all fun job => job.place ≠ place
  (((List.range (state.jobs.length + 1)).map (· + 1)).find? isFree).getD 1

def progressText : Progress State → Text
  | .ready _ _ => "Running"
  | .ended _ true => "Running"
  | .ended (.exited 0) false => "Done"
  | .ended (.exited code) false => "Done(" ++ Text.ofNat code ++ [')']
  | .ended (.killed signal) false => (Signal.describe? signal).getD []

def goesOn (job : Job State) : Bool :=
  match job.progress with
  | .ended _ false => false
  | _ => true

def jobLines (kept : Nat) : List (Job State) → List Text
  | [] => []
  | job :: others =>
    let sign := if kept = 0 then '+' else if kept = 1 then '-' else ' '
    let front := '[' :: Text.ofNat job.place ++ "] " ++ sign :: ' ' :: progressText job.progress
    let line := front ++ List.replicate (max 1 (33 - front.length)) ' ' ++ ['\n']
    line :: jobLines (if goesOn job then kept + 1 else kept) others

def listJobs (arguments : List Text) : Action Nat := do
  let (options, _) ← readOptions ['l', 'p'] [] arguments
  let jobs := (← get).jobs.reverse
  if options.any fun option => option.1 = 'p' then
    Action.display (jobs.flatMap fun job => Text.ofNat job.number ++ ['\n'])
  else
    modify fun state => { state with jobs := state.jobs.filter goesOn }
    Action.display (jobLines 0 jobs).flatten

def resume (arguments : List Text) : Action Nat := do
  let (_, words) ← readOptions [] [] arguments
  match words with
  | [] =>
    if (← get).jobs.isEmpty then Action.fail "No current job"
    else Action.fail "job (null) not created under job control"
  | word :: _ => Action.fail ("No such job: " ++ word)

def times (_ : List Text) : Action Nat :=
  Action.display "0m0.000000s 0m0.000000s\n0m0.000000s 0m0.000000s\n"

end PipDriver.Shell.Builtin
