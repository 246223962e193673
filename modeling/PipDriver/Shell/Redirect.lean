import PipDriver.Shell.Expand

/-!
Redirections of the channels of a command. All targets are expanded before the first channel is changed; texts
below the command are expanded when their turn comes.
-/

namespace PipDriver.Shell

def openReason (fault : Fault) : Text :=
  if fault = .missing || fault = .notFolder then "No such file" else fault.reason

def createReason (fault : Fault) : Text :=
  if fault = .missing || fault = .notFolder then "Directory nonexistent" else fault.reason

structure Turn where
  channel : Nat
  direction : Direction
  target : Text

namespace Turn

def channel? (target : Text) : Option Nat :=
  match target with
  | [digit] => if digit.isDigit then some (digit.toNat - '0'.toNat) else none
  | _ => none

def ofRedirection (runner : Runner) (fuel : Nat) : Redirection → Action Turn
  | .mk channel direction target => do
    match direction with
    | .document _ => return { channel, direction, target := [] }
    | .follows =>
      let text ← Expansion.text runner fuel target
      if text ≠ ['-'] && (channel? text).isNone then Action.fail "Syntax error: Bad fd number"
      return { channel, direction, target := text }
    | _ => return { channel, direction, target := ← Expansion.text runner fuel target }

def opening (direction : Direction) : Opening :=
  match direction with
  | .writes => { writes := true, makes := true, empties := true }
  | .clobbers => { writes := true, makes := true, empties := true }
  | .appends => { writes := true, makes := true, appends := true }
  | .updates => { reads := true, writes := true, makes := true }
  | _ => { reads := true }

def lead (channel : Nat) (stream : Option Nat) : Action Unit :=
  modify fun state =>
    let others := state.channels.filter fun (number, _) => number ≠ channel
    { state with channels := match stream with
      | some stream => (channel, stream) :: others
      | none => others }

def isGuarded (state : State) (turn : Turn) : Bool :=
  turn.direction = .writes && state.hasFlag 'C'
    && state.machine.disk.isFile state.folder (.ofBytewise turn.target)

def lay (channel : Nat) (text : Text) : Action Unit := do
  let state ← get
  let (stream, machine) := state.machine.addStream (.pipe text.toBytes)
  set { state with machine }
  lead channel (some stream)

def apply (runner : Runner) (fuel : Nat) (turn : Turn) : Action Unit := do
  let state ← get
  match turn.direction with
  | .document number =>
    lay turn.channel (← Expansion.document runner fuel (state.document number))
  | .follows =>
    match channel? turn.target with
    | none => lead turn.channel none
    | some channel =>
      match state.channels.lookup channel with
      | some stream => lead turn.channel (some stream)
      | none => Action.fail (Text.ofNat channel ++ ": " ++ Fault.notOpen.reason)
  | direction =>
    let isReading := direction = .reads
    let refusal (fault : Fault) : Text :=
      if isReading then "cannot open " ++ turn.target ++ ": " ++ openReason fault
      else "cannot create " ++ turn.target ++ ": " ++ createReason fault
    if isGuarded state turn then Action.fail (refusal .taken)
    match state.machine.openPath state.channels state.folder (.ofBytewise turn.target)
        (opening direction) with
    | .ok (stream, machine) =>
      set { state with machine }
      lead turn.channel (some stream)
    | .error fault => Action.fail (refusal fault)

end Turn

end PipDriver.Shell
