import PipDriver.Shell.Builtin.Settings
import PipDriver.Shell.Search

/-!
How a shell is called: the words behind its name, and what it knows at its start.
-/

namespace PipDriver.Shell

inductive Order
  | text (line name : Text) (parameters : List Text)
  | file (path : Text) (parameters : List Text)
  | input (parameters : List Text)

structure Call where
  flags : List Char := []
  asksText : Bool := false
  words : List Text := []

namespace Call

def withFlag (call : Call) (flag : Char) (on : Bool) : Call :=
  let others := call.flags.filter (· ≠ flag)
  { call with flags := if on then flag :: others else others }

def readCluster (on : Bool) (call : Call) (rest : List Text) : Text → Except Text (Call × List Text)
  | [] => .ok (call, rest)
  | letter :: more =>
    if letter = 'c' then readCluster on { call with asksText := true } rest more
    else if letter = 'l' then readCluster on call rest more
    else if letter = 'o' then
      match rest with
      | [] => readCluster on call [] more
      | name :: others =>
        match Builtin.flagNames.find? fun entry => entry.2 = name with
        | some (flag, _) => readCluster on (call.withFlag flag on) others more
        | none => .error ("Illegal option -o " ++ name)
    else if !letter.isDigit && Builtin.flagNames.any fun entry => entry.1 = letter then
      readCluster on (call.withFlag letter on) rest more
    else .error ("Illegal option -" ++ [letter])

def read (fuel : Nat) (call : Call) (words : List Text) : Except Text Call :=
  match fuel, words with
  | 0, _ => .ok { call with words }
  | _, [] => .ok call
  | fuel + 1, word :: rest =>
    let goOn (on : Bool) (letters : Text) : Except Text Call :=
      match readCluster on call rest letters with
      | .ok (call, rest) => read fuel call rest
      | .error reason => .error reason
    match word with
    | ['-'] => .ok { call with words := rest }
    | ['-', '-'] => .ok { call with words := rest }
    | '-' :: letters => goOn true letters
    | '+' :: letters => goOn false letters
    | _ => .ok { call with words := word :: rest }

def order (name : Text) (words : List Text) : Except Text (List Char × Order) := do
  let call ← read (words.length + 1) {} words
  match call.words with
  | [] =>
    if call.asksText then .error "-c requires an argument"
    else .ok ((call.withFlag 's' true).flags, .input [])
  | first :: rest =>
    if call.asksText then .ok (call.flags, .text first (rest.headD name) rest.tail)
    else if 's' ∈ call.flags then .ok (call.flags, .input (first :: rest))
    else .ok (call.flags, .file first rest)

end Call

namespace State

def startBindings (environment : List (Text × Text)) (parent : Nat) : List Variable :=
  let own : List (Text × Text × Bool) :=
    [("PATH", usualPath, true), ("IFS", " \t\n", false), ("OPTIND", "1", false), ("PS1", "# ", true),
     ("PS2", "> ", true), ("PS4", "+ ", true), ("PPID", Text.ofNat parent, false)]
  let start := own.map fun (name, value, yields) =>
    match environment.lookup name with
    | some found => { name, value := some (if yields then found else value), exported := true : Variable }
    | none => { name, value := some value }
  let names := own.map Prod.fst
  start ++ (environment.filter fun (name, _) => isName name && name ∉ names).map fun (name, value) =>
    { name, value := some value, exported := true }

def startWay (disk : Disk) (folder : Location) (environment : List (Text × Text)) : Text :=
  let physical := (Host.pathBytes folder).bytewise
  match environment.lookup "PWD".toList with
  | some told =>
    if told.head? = some '/' && (disk.folderAt folder (.ofBytewise told)).toOption = some folder then told
    else physical
  | none => physical

def start (machine : Machine) (process : Process) (flags : List Char) (name : Text)
    (parameters : List Text) : State :=
  let way := startWay machine.disk process.folder process.environment
  let state : State :=
    { name, parameters, flags, way, machine
      bindings := startBindings process.environment process.parent
      folder := process.folder
      channels := process.channels
      number := process.number
      ownNumber := process.number
      parent := process.parent }
  state.put { name := "PWD", value := some way, exported := true }

end State

end PipDriver.Shell
