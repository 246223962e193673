import PipDriver.Process.Tools
import PipDriver.Shell.Call
import PipDriver.Shell.Lead

/-!
Starting programs. A program is a tool of the host or a script with the path of its interpreter in its first
line. The shell among the tools runs commands, which may start programs again, so both are one recursion,
bounded by fuel; a process that has used it up is killed.
-/

namespace PipDriver

namespace Launch

open Shell

def interpreter? (bytes : ByteArray) : Option (Text × Option Text) :=
  match Text.ofBytes (bytes.extract 0 256) with
  | '#' :: '!' :: rest =>
    let line := (rest.takeWhile (· ≠ '\n')).dropWhile isBlankChar
    let name := line.takeWhile fun character => !isBlankChar character
    let more := (line.drop name.length).dropWhile isBlankChar
    let argument := (more.reverse.dropWhile isBlankChar).reverse
    if name = [] then none else some (name, if argument = [] then none else some argument)
  | _ => none

def plainPath : Text := "/bin:/usr/bin"

def placesOf (environment : List (Text × Text)) (name : Text) : List Text :=
  if '/' ∈ name then [name] else candidates ((environment.lookup "PATH".toList).getD plainPath) name

def isAbsence (fault : Fault) : Bool :=
  fault = .missing || fault = .notFolder || fault = .nameTooLong || fault = .tooManyLinks

def absenceCode (fault : Fault) : Nat := if isAbsence fault then 127 else 126

structure Standing where
  /-- Whether someone looks at the outcome, so that a failure does not end the shell. -/
  tested : Bool := false
  /-- Whether the process has nothing left to do afterwards. -/
  last : Bool := false

namespace Standing

def inner (standing : Standing) : Standing := { tested := standing.tested }

def watched : Standing := { tested := true }

end Standing

def check (standing : Standing) : Action Unit := do
  let state ← get
  if state.hasFlag 'e' && !standing.tested && state.code ≠ 0 then throw .exits

def exhausted : Action α := throw (.killed 9)

def takeSignals : Action (List Nat) := do
  let state ← get
  let (own, others) := state.machine.signals.partition fun entry => entry.2 = state.ownNumber
  if own = [] then return []
  else
    set { state with machine := { state.machine with signals := others } }
    return (List.range Signal.count).filter fun signal => own.any fun entry => entry.1 = signal

def strike : Action Unit := do
  let state ← get
  let deadly := state.machine.signals.find? fun entry =>
    entry.2 = state.ownNumber && !Signal.isIdle entry.1 &&
      (entry.1 = 9 || entry.1 = 19 || (state.traps.lookup entry.1).isNone)
  match deadly with
  | some (signal, _) => throw (.killed signal)
  | none => return

def childState (state : State) (channels : Channels) : State :=
  let number := state.machine.lastNumber + 1
  { state with
    machine := { state.machine with lastNumber := number }
    channels
    ownNumber := number
    parent := state.ownNumber
    traps := state.traps.filter fun entry => entry.2 = []
    jobs := []
    savedCode := none }

def withChannel (channels : Channels) (channel stream : Nat) : Channels :=
  (channel, stream) :: channels.filter fun entry => entry.1 ≠ channel

def waitedFor (ending : Ending) : Action Unit := do
  strike
  Builtin.report ending
  Action.setCode (Builtin.endingCode ending)

def addPipe : Action Nat := do
  let state ← get
  let (stream, machine) := state.machine.addStream (.pipe .empty)
  set { state with machine }
  return stream

def trace (channels : Channels) (start : Text) (assignments : List (Text × Text)) (words : List Text) :
    Action Unit :=
  let shown := assignments.map (fun (name, value) => name ++ '=' :: value) ++ words
  let line := start ++ [' '].intercalate shown ++ ['\n']
  modify fun state =>
    { state with machine := (state.machine.emit channels 2 line.toBytes).getD state.machine }

def readTemplate (text : Text) : Word :=
  match (readPieces (16 * text.length + 100) .document).run { rest := text } with
  | .ok (word, _) => word
  | .error _ => Word.quoted text

def readCommands (name : Text) : Action Text := do
  let state ← get
  let path := Path.ofBytewise name
  match state.machine.openPath state.channels state.folder path { reads := true } with
  | .error fault => Action.fail ("cannot open " ++ name ++ ": " ++ openReason fault)
  | .ok _ =>
    match state.machine.disk.read state.folder path with
    | .ok bytes => return Text.ofBytes bytes
    | .error _ => return []

def sourceOf (name : Text) : Action Text := do
  if '/' ∈ name then return name
  else match findText? (← get) name with
    | some path => return path
    | none => Action.fail (name ++ ": not found")

def mostCalls : Nat := 1000

def calling (function : Function) (parameters : List Text) (action : Action Unit) : Action Unit := do
  let before ← get
  if mostCalls ≤ before.calls then Action.fail "Maximum function recursion depth (1000) reached"
  set { before with
    calls := before.calls + 1
    parameters, functionLine := some function.line, loops := 0, optionIndex := 1, optionOffset := none }
  let result ← Action.outcome action
  modify fun after =>
    { after with
      calls := before.calls
      parameters := before.parameters, functionLine := before.functionLine, loops := before.loops
      optionIndex := before.optionIndex, optionOffset := before.optionOffset }
  match result with
  | .ok () => return
  | .error .returns => return
  | .error leave => throw leave

def inLoop (action : Action α) : Action α := fun state =>
  let (result, after) := action { state with loops := state.loops + 1 }
  (result, { after with loops := state.loops })

inductive Round
  | next
  | again
  | done

def roundOf (result : Except Leave Unit) : Action Round := do
  match result with
  | .ok () => return .next
  | .error (.breaks count) => if count ≤ 1 then return .done else throw (.breaks (count - 1))
  | .error (.continues count) => if count ≤ 1 then return .again else throw (.continues (count - 1))
  | .error leave => throw leave

def putBehind (inner : Script) : Action Unit := do
  modify Builtin.dropNoticed
  let state ← get
  let (stream, machine) := state.machine.addStream .empty
  let start := childState { state with machine } (withChannel state.channels 0 stream)
  let job : Job State := { place := Builtin.freePlace state, number := start.ownNumber, progress := .ready start inner }
  set { state with
    machine := start.machine
    jobs := state.jobs ++ [job]
    lastJob := some job.number
    code := 0 }

mutual

def launch (fuel : Nat) (machine : Machine) (process : Process) (program : Text) :
    Except Fault (Ending × Machine) :=
  match fuel with
  | 0 => .error .tooManyLinks
  | fuel + 1 =>
    match machine.disk.find process.folder (.ofBytewise program) with
    | .error fault => .error fault
    | .ok (.vacant _ _ _) => .error .missing
    | .ok (.occupied location (.file file)) =>
      if !file.executable then .error .denied
      else match machine.programs.lookup location with
        | some tool => .ok (runTool fuel machine process tool)
        | none =>
          match interpreter? file.bytes with
          | none => .error .badFormat
          | some (interpreter, argument) =>
            let words := interpreter :: argument.toList ++ program :: process.words.tail
            launch fuel machine { process with words } interpreter
    | .ok (.occupied _ _) => .error .denied

def launchAny (fuel : Nat) (machine : Machine) (process : Process) (refusal : Fault) (places : List Text) :
    Except Fault (Ending × Machine) :=
  match fuel, places with
  | 0, _ => .error refusal
  | _, [] => .error refusal
  | fuel + 1, place :: others =>
    match launch fuel machine process place with
    | .ok result => .ok result
    | .error .badFormat =>
      let words := "/bin/sh".toList :: place :: process.words.tail
      launch fuel machine { process with words } "/bin/sh"
    | .error fault =>
      launchAny fuel machine process (if fault = .missing || fault = .notFolder then refusal else fault) others

def runTool (fuel : Nat) (machine : Machine) (process : Process) (tool : Tool) : Ending × Machine :=
  match fuel with
  | 0 => (.killed 9, machine)
  | fuel + 1 =>
    match tool with
    | .shell => runShell fuel machine process
    | .environment =>
      match Tools.environment process machine with
      | .error report => (.exited report.code, report.deliver process.channels machine)
      | .ok changed =>
        match launchAny fuel machine changed .missing (placesOf changed.environment (changed.words.headD [])) with
        | .ok result => result
        | .error fault =>
          let report := Tools.notStarted process (changed.words.headD []) fault (absenceCode fault)
          (.exited report.code, report.deliver process.channels machine)
    | tool => Tools.run tool process machine

def runShell (fuel : Nat) (machine : Machine) (process : Process) : Ending × Machine :=
  match fuel with
  | 0 => (.killed 9, machine)
  | fuel + 1 =>
    let own := process.words.headD []
    match Call.order own process.words.tail with
    | .error reason =>
      let report := Report.complaint (own ++ ": 0: " ++ reason) 2
      (.exited 2, report.deliver process.channels machine)
    | .ok (flags, order) =>
      let (name, parameters) := match order with
        | .text _ name parameters => (name, parameters)
        | .file path parameters => (path, parameters)
        | .input parameters => (own, parameters)
      let action : Action Unit := do
        match order with
        | .text line _ _ => discard (runText fuel {} false line)
        | .file path _ =>
          modify fun state => { state with name := own }
          let text ← readCommands path
          modify fun state => { state with name := path }
          discard (runText fuel {} true text)
        | .input _ =>
          let state ← get
          match state.machine.take state.channels 0 none with
          | .error _ => return
          | .ok (bytes, machine) =>
            set { state with machine }
            discard (runText fuel {} true (Text.ofBytes bytes))
      let (result, after) := (finish fuel action).run (State.start machine process flags name parameters)
      match result with
      | .ok ending => (ending, after.machine)
      | .error _ => (.killed 9, after.machine)

def finish (fuel : Nat) (action : Action Unit) : Action Ending := do
  match fuel with
  | 0 => return .killed 9
  | fuel + 1 =>
    let ending ← conclude fuel (← Action.outcome action)
    settle fuel (← get).jobs
    return ending

def conclude (fuel : Nat) (result : Except Leave Unit) : Action Ending := do
  match fuel, result with
  | 0, _ => return .killed 9
  | _, .error (.killed signal) => return .killed signal
  | fuel + 1, _ =>
    let state ← get
    match (state.traps.lookup 0).filter (· ≠ []) with
    | none => return .exited (state.code % 256)
    | some text =>
      let code := state.code
      set { state with
        traps := state.traps.filter (fun entry => entry.1 ≠ 0), savedCode := some code, loops := 0 }
      match ← Action.outcome (runText fuel {} false text) with
      | .error (.killed signal) => return .killed signal
      | .error .exits => return .exited ((← get).code % 256)
      | .error .fails => return .exited ((← get).code % 256)
      | _ => return .exited (code % 256)

def settle (fuel : Nat) (jobs : List (Job State)) : Action Unit := do
  match fuel, jobs with
  | 0, _ => exhausted
  | _, [] => return
  | fuel + 1, job :: others =>
    match job.progress with
    | .ended _ _ => settle fuel others
    | .ready start script =>
      let machine := (← get).machine
      let action := perform fuel { last := true } script
      let (result, after) := (finish fuel action).run (start.after machine)
      let ending : Ending := match result with
        | .ok ending => ending
        | .error _ => .killed 9
      let progress := .ended ending (machine.naps < after.machine.naps)
      modify fun state =>
        { state.after after.machine with
          jobs := state.jobs.map fun old =>
            if old.number = job.number then { old with progress } else old }
      settle fuel others

def attend (fuel : Nat) (signals : List Nat) : Action Unit := do
  match fuel, signals with
  | 0, _ => exhausted
  | _, [] => return
  | fuel + 1, signal :: others =>
    let state ← get
    let action := if signal = 9 || signal = 19 then none else state.traps.lookup signal
    match action with
    | none => if Signal.isIdle signal then attend fuel others else throw (.killed signal)
    | some [] => attend fuel others
    | some text =>
      modify fun state => { state with savedCode := some (state.savedCode.getD state.code) }
      discard (runText fuel {} false text)
      modify fun after => { after with code := state.code, savedCode := state.savedCode }
      attend fuel others

def runText (fuel : Nat) (standing : Standing) (shows : Bool) (text : Text) : Action Nat := do
  match fuel with
  | 0 => exhausted
  | fuel + 1 => runSource fuel standing shows { rest := text } 0

def runSource (fuel : Nat) (standing : Standing) (shows : Bool) (source : Shell.Source) (code : Nat) :
    Action Nat := do
  match fuel with
  | 0 => exhausted
  | fuel + 1 =>
    let state ← get
    let start := { source with aliases := state.aliases, documents := state.documents }
    match readComplete.run start with
    | .error misreading =>
      set { state with line := misreading.line }
      Action.fail ("Syntax error: " ++ misreading.reason)
    | .ok (script, rest) =>
      let taken := source.rest.take (source.rest.length - rest.rest.length)
      set { state with documents := rest.documents }
      if shows && state.hasFlag 'v' && taken ≠ [] then discard (Action.emit 2 taken)
      match script with
      | none => return code
      | some .nothing => runSource fuel standing shows rest code
      | some script =>
        perform fuel standing script
        runSource fuel standing shows rest (← get).code

def perform (fuel : Nat) (standing : Standing) (script : Script) : Action Unit := do
  match fuel with
  | 0 => exhausted
  | fuel + 1 =>
    if (← get).hasFlag 'n' then return
    attend fuel (← takeSignals)
    match script with
    | .nothing => return
    | .simple line assignments words redirections =>
      modify fun state => { state with line }
      performSimple fuel standing assignments words redirections
      attend fuel (← takeSignals)
      check standing
    | .sequence first second =>
      perform fuel standing.inner first
      perform fuel standing second
    | .both first second =>
      perform fuel .watched first
      if (← get).code = 0 then perform fuel standing second
    | .either first second =>
      perform fuel .watched first
      if (← get).code ≠ 0 then perform fuel standing second
    | .negate inner =>
      perform fuel .watched inner
      modify fun state => { state with code := if state.code = 0 then 1 else 0 }
    | .pipeline stages =>
      let endings ← performStages fuel standing none stages
      endings.forM waitedFor
      attend fuel (← takeSignals)
      check standing
    | .background line inner =>
      modify fun state => { state with line }
      putBehind inner
    | .subshell line inner redirections =>
      modify fun state => { state with line }
      let turns ← redirections.mapM (Turn.ofRedirection (capture fuel) Expansion.depth)
      let body : Action Unit := do
        turns.forM (Turn.apply (capture fuel) Expansion.depth)
        perform fuel { standing with last := true } inner
      let state ← get
      if standing.last && !state.hasTraps then body
      else
        waitedFor (← nest fuel state.channels body)
        attend fuel (← takeSignals)
        check standing
    | .redirected line inner redirections =>
      modify fun state => { state with line }
      let turns ← redirections.mapM (Turn.ofRedirection (capture fuel) Expansion.depth)
      Action.keepingChannels (turns.map Turn.channel) do
        if ← applyTurns (capture fuel) turns then perform fuel standing.inner inner
    | .choose condition yes no =>
      perform fuel .watched condition
      if (← get).code = 0 then perform fuel standing yes
      else
        match no with
        | .nothing => Action.setCode 0
        | no => perform fuel standing no
    | .repeatWhile expected condition body =>
      inLoop (performWhile fuel standing.inner expected condition body 0)
    | .loop line name items body =>
      modify fun state => { state with line }
      let values ← items.mapM (Expansion.fields (capture fuel) Expansion.depth)
      if values.flatten = [] then Action.setCode 0
      inLoop (performEach fuel standing.inner name values.flatten body)
    | .select line subject arms =>
      modify fun state => { state with line }
      let text ← Expansion.text (capture fuel) Expansion.depth subject
      performArm fuel standing text arms
    | .define line name body =>
      modify fun state =>
        let others := state.functions.filter fun entry => entry.name ≠ name
        { state with functions := { name, line, body } :: others, code := 0 }

def performArm (fuel : Nat) (standing : Standing) (text : Text) (arms : List (List Word × Script)) :
    Action Unit := do
  match fuel, arms with
  | 0, _ => exhausted
  | _, [] => Action.setCode 0
  | fuel + 1, (patterns, body) :: others =>
    let fits ← patterns.anyM fun word => do
      let pattern ← Expansion.pattern (capture fuel) Expansion.depth word
      return matchesPattern pattern text
    if fits then
      match body with
      | .nothing => Action.setCode 0
      | body => perform fuel standing body
    else performArm fuel standing text others

def performEach (fuel : Nat) (standing : Standing) (name : Text) (values : List Text) (body : Script) :
    Action Unit := do
  match fuel, values with
  | 0, _ => exhausted
  | _, [] => return
  | fuel + 1, value :: others =>
    Action.assign name (some value)
    match ← roundOf (← Action.outcome (perform fuel standing body)) with
    | .done => return
    | _ => performEach fuel standing name others body

def performWhile (fuel : Nat) (standing : Standing) (expected : Bool) (condition body : Script)
    (code : Nat) : Action Unit := do
  match fuel with
  | 0 => exhausted
  | fuel + 1 =>
    let tested ← Action.outcome (perform fuel .watched condition)
    let answer := (← get).code
    if tested matches .error (.breaks _) then Action.setCode code
    if tested matches .error (.continues _) then Action.setCode code
    match ← roundOf tested with
    | .done => return
    | .again => performWhile fuel standing expected condition body code
    | .next =>
      if (answer = 0) ≠ expected then Action.setCode code
      else
        match ← roundOf (← Action.outcome (perform fuel standing body)) with
        | .done => return
        | _ => performWhile fuel standing expected condition body (← get).code

def performStages (fuel : Nat) (standing : Standing) (input : Option Nat) (stages : List Script) :
    Action (List Ending) := do
  match fuel, stages with
  | 0, _ => exhausted
  | _, [] => return []
  | fuel + 1, stage :: others =>
    let own := (← get).channels
    let reading := match input with
      | some stream => withChannel own 0 stream
      | none => own
    let body := perform fuel { standing with last := true } stage
    match others with
    | [] => return [← nest fuel reading body]
    | others =>
      let pipe ← addPipe
      let ending ← nest fuel (withChannel reading 1 pipe) body
      return ending :: (← performStages fuel standing (some pipe) others)

def nest (fuel : Nat) (channels : Channels) (action : Action Unit) : Action Ending := do
  match fuel with
  | 0 => exhausted
  | fuel + 1 =>
    settle fuel (← get).jobs
    modify Builtin.dropNoticed
    let state ← get
    let (result, after) := (finish fuel action).run (childState state channels)
    set (state.after after.machine)
    match result with
    | .ok ending => return ending
    | .error leave => throw leave

def capture (fuel : Nat) (script : Script) : Action Text := do
  match fuel, script with
  | 0, _ => exhausted
  | _, .nothing => return []
  | fuel + 1, script =>
    let pipe ← addPipe
    let channels := withChannel (← get).channels 1 pipe
    let ending ← nest fuel channels (perform fuel { last := true } script)
    strike
    Builtin.report ending
    modify fun state => { state with takenCode := Builtin.endingCode ending }
    match (← get).machine.streams[pipe]? with
    | some (.pipe bytes) => return Text.ofBytes bytes
    | _ => return []

def performSimple (fuel : Nat) (standing : Standing) (assignments words : List Word)
    (redirections : List Redirection) : Action Unit := do
  match fuel with
  | 0 => exhausted
  | fuel + 1 =>
    modify fun state => { state with takenCode := 0 }
    let runner := capture fuel
    let lead ← Lead.ofWords runner words
    let words ← lead.words runner
    let turns ← redirections.mapM (Turn.ofRedirection runner Expansion.depth)
    let before := (← get).channels
    let exports := lead.keepsTurns && 1 < words.length
    let assignOne (word : Word) : Action (List (Text × Text)) := do
      match word.assignment? with
      | none => return []
      | some (name, word) =>
        let value ← Expansion.value runner Expansion.depth word
        if lead.isolates then Action.assignLocally name (some value) true
        else
          Action.assign name (some value)
          if exports then modify fun state => state.exporting name
        return [(name, value)]
    let body : Action Unit := do
      if ← applyTurns runner turns then
        let assigned ← assignments.mapM assignOne
        if (← get).hasFlag 'x' then
          let start ← traceStart fuel
          trace before start assigned.flatten (lead.passed ++ words)
        performHead fuel standing lead words
      else if lead.isSpecial then throw .fails
    let framed := if lead.isolates then Action.inFrame body else body
    if lead.keepsTurns then framed else Action.keepingChannels (turns.map Turn.channel) framed

def traceStart (fuel : Nat) : Action Text := do
  match fuel with
  | 0 => exhausted
  | fuel + 1 =>
    let state ← get
    let template := readTemplate ((state.valueOf? "PS4").getD [])
    set { state with flags := state.flags.filter (· ≠ 'x') }
    let start ← Expansion.document (capture fuel) Expansion.depth template
    modify fun after => { after with flags := state.flags, code := state.code, takenCode := state.takenCode }
    return start

def performHead (fuel : Nat) (standing : Standing) (lead : Lead) (words : List Text) : Action Unit := do
  match fuel with
  | 0 => exhausted
  | fuel + 1 =>
    let arguments := words.tail
    match lead.head with
    | .empty => Action.setCode (← get).takenCode
    | .function function =>
      calling function arguments (perform fuel standing.inner function.body)
    | .program => performProgram fuel standing lead.path words
    | .builtin builtin =>
      if builtin.waits then settle fuel (← get).jobs
      let work : Action Nat := match builtin.work with
        | .plain action => action arguments
        | .evaluate =>
          if arguments = [] then pure 0 else runText fuel standing.inner false ([' '].intercalate arguments)
        | .source => performSource fuel arguments
        | .replace => performReplace fuel arguments
      match ← Action.outcome (Action.underName (words.headD []) work) with
      | .ok code => Action.setCode code
      | .error .fails => if lead.isSpecial then throw .fails
      | .error leave => throw leave

def performSource (fuel : Nat) (arguments : List Text) : Action Nat := do
  match fuel with
  | 0 => exhausted
  | fuel + 1 =>
    let (_, words) ← readOptions [] [] arguments
    match words with
    | [] => return 0
    | name :: _ =>
      let path ← sourceOf name
      let text ← readCommands path
      match ← Action.outcome (Action.underName path (runText fuel {} true text)) with
      | .ok code => return code
      | .error .returns => return (← get).code
      | .error leave => throw leave

def performReplace (fuel : Nat) (arguments : List Text) : Action Nat := do
  match fuel with
  | 0 => exhausted
  | fuel + 1 =>
    match arguments with
    | [] => return 0
    | name :: _ =>
      let state ← get
      let places := if '/' ∈ name then [name] else candidates (searchPath state) name
      takePlace fuel arguments places
      throw .exits

def takePlace (fuel : Nat) (words places : List Text) : Action Unit := do
  match fuel with
  | 0 => exhausted
  | fuel + 1 =>
    settle fuel (← get).jobs
    let state ← get
    let process : Process :=
      { words, folder := state.folder, environment := state.environment, channels := state.channels
        number := state.ownNumber, parent := state.parent }
    match launchAny fuel state.machine process .missing places with
    | .ok (.exited code, machine) => set { state.after machine with code, traps := [] }
    | .ok (.killed signal, machine) =>
      set (state.after machine)
      throw (.killed signal)
    | .error fault =>
      Action.complain (words.headD [] ++ ": " ++ startReason fault)
      Action.setCode (absenceCode fault)

def performProgram (fuel : Nat) (standing : Standing) (path : Option Text) (words : List Text) :
    Action Unit := do
  match fuel with
  | 0 => exhausted
  | fuel + 1 =>
    let name := words.headD []
    let state ← get
    let path := path.getD (searchPath state)
    let found ← if '/' ∈ name then pure (.ok name) else track path name
    match found with
    | .error fault =>
      Action.complain (name ++ ": " ++ startReason fault)
      Action.setCode 127
    | .ok place =>
      let places := if '/' ∈ name then [name] else (candidates path name).dropWhile (· ≠ place)
      if standing.last && !state.hasTraps then takePlace fuel words places
      else
        waitedFor (← nest fuel state.channels (takePlace fuel words places))

end

end Launch

end PipDriver
