import PipDriver.Process.Printf
import PipDriver.Process.Tools.Complaint

/-!
The programs of the host that print their arguments or what they know of their surroundings.
-/

namespace PipDriver

namespace Tools

def echoOptions : List Text → Text × List Text
  | ('-' :: letter :: letters) :: rest =>
    if (letter :: letters).all (· ∈ "neE".toList) then
      let (options, words) := echoOptions rest
      (letter :: letters ++ options, words)
    else ([], ('-' :: letter :: letters) :: rest)
  | words => ([], words)

def argumentEscapes : EscapeRules where
  extraZero := true
  hexadecimal := true

def echo (arguments : List Text) : Report :=
  let (options, words) := echoOptions arguments
  let text := [' '].intercalate words
  let interpreted := (options.filter (· ≠ 'n')).getLast? = some 'e'
  let printed : Escape.Printed :=
    if interpreted then Escape.interpret argumentEscapes text else { text }
  let ending : Text := if 'n' ∈ options || printed.stopped then [] else ['\n']
  Report.shown (printed.text ++ ending).toBytes

def numberedCharacter (character : Char) : Text :=
  let digits := (Nat.toDigits 16 character.toNat).map Char.toUpper
  let padded (count : Nat) : Text := List.replicate (count - digits.length) '0' ++ digits
  if character.toNat < 128 then [character]
  else if digits.length ≤ 4 then '\\' :: 'u' :: padded 4
  else '\\' :: 'U' :: padded 8

def printfManner (program : Text) : Printf.Manner where
  format := { hexadecimal := true, numbered := some numberedCharacter, quote := true }
  argument := { argumentEscapes with numbered := some numberedCharacter }
  flawed argument flaw := program ++ ": " ++ named argument ++ match flaw with
    | .noNumber => ": expected a numeric value"
    | .partly => ": value not completely converted"
    | .tooLarge => ": Numerical result out of range"
  unknown place := program ++ ": " ++ place ++ ": invalid conversion specification"
  unfinished place := program ++ ": " ++ place ++ ": invalid conversion specification"
  brokenCode := 1
  sizes := true

def excess (program format : Text) (arguments : List Text) : Report :=
  let places := (Printf.pieces (printfManner program) format.length format).any fun
    | .text _ => false
    | _ => true
  match arguments with
  | [] => {}
  | first :: _ =>
    if places then {}
    else Report.complaint
      (program ++ ": warning: ignoring excess arguments, starting with " ++ named first) 0

def printf (process : Process) : Report :=
  let program := ownName process
  let words := match process.words.tail with
    | ['-', '-'] :: rest => rest
    | words => words
  match words with
  | [] => misuse program "missing operand"
  | format :: rest =>
    (Printf.run (printfManner program) format rest).report ++ excess program format rest

def shownValues (ending : Char) (values : List Text) : Report :=
  Report.shown (Text.toBytes (values.flatMap fun value => value ++ [ending]))

def shownVariables (ending : Char) (environment : List (Text × Text)) : Report :=
  shownValues ending (environment.map fun (name, value) => name ++ '=' :: value)

def printVariables (process : Process) : Report :=
  let letters : OptionLetters := { flags := ['0'], longs := [("null", '0')] }
  match letters.read process.words.tail with
  | .error fault => optionMisuse (ownName process) fault 2
  | .ok reading =>
    let ending := if reading.has '0' then '\x00' else '\n'
    match reading.operands with
    | [] => shownVariables ending process.environment
    | names =>
      let values := names.map fun name => process.environment.lookup name
      { shownValues ending (values.filterMap id) with code := if values.contains none then 1 else 0 }

def printFolder (process : Process) : Report :=
  let letters : OptionLetters := { flags := ['L', 'P'], longs := [("logical", 'L'), ("physical", 'P')] }
  match letters.read process.words.tail with
  | .error fault => optionMisuse (ownName process) fault
  | .ok reading =>
    let warning : Report :=
      if reading.operands = [] then {} else complain process "ignoring non-option arguments" 0
    warning ++ Report.line ((Host.pathBytes process.folder).bytewise)

def environmentLetters : OptionLetters where
  flags := "i0v".toList
  valued := "uCS".toList
  longs := [("ignore-environment", 'i'), ("null", '0'), ("debug", 'v'), ("unset", 'u'), ("chdir", 'C'),
    ("split-string", 'S')]

def withVariable (environment : List (Text × Text)) (entry : Text × Text) : List (Text × Text) :=
  if environment.any fun old => old.1 = entry.1 then
    environment.map fun old => if old.1 = entry.1 then entry else old
  else environment ++ [entry]

def changedVariables (options : List GivenOption) (clears : Bool) (settings : List (Text × Text))
    (environment : List (Text × Text)) : List (Text × Text) :=
  let start := if clears || .flag 'i' ∈ options then [] else environment
  let kept := options.foldl (fun environment option => match option with
    | .value 'u' name => environment.filter fun entry => entry.1 ≠ name
    | _ => environment) start
  settings.foldl withVariable kept

def environment (process : Process) (machine : Machine) : Except Report Process := do
  let program := ownName process
  let (options, words) ← (environmentLetters.readFront process.words.tail).mapError fun fault =>
    optionMisuse program fault 125
  let clears := words.head? = some ['-']
  let words := if clears then words.tail else words
  let isSetting (word : Text) : Bool := '=' ∈ word
  let settings := (words.takeWhile isSetting).filterMap (Text.splitOnce ['='])
  let words := words.dropWhile isSetting
  let environment := changedVariables options clears settings process.environment
  let folder := options.reverse.findSome? fun
    | .value 'C' path => some path
    | _ => none
  let separate := .flag '0' ∈ options
  let unnamable := options.findSome? fun
    | .value 'u' name => if name = [] || '=' ∈ name then some name else none
    | _ => none
  if let some name := unnamable then
    throw (complain process ("cannot unset " ++ named name ++ ": Invalid argument") 125)
  if separate && words ≠ [] then throw (misuse program "cannot specify --null (-0) with command" 125)
  else if folder.isSome && words = [] then throw (misuse program "must specify command with --chdir (-C)" 125)
  else if words = [] then throw (shownVariables (if separate then '\x00' else '\n') environment)
  else match folder with
    | none => return { process with words, environment }
    | some path =>
      match machine.disk.folderAt process.folder (.ofBytewise path) with
      | .ok folder => return { process with words, environment, folder }
      | .error fault =>
        throw (complain process ("cannot change directory to " ++ named path ++ ": " ++ fault.reason) 125)

def notStarted (process : Process) (name : Text) (fault : Fault) (code : Nat) : Report :=
  complain process (named name ++ ": " ++ fault.reason) code

end Tools

end PipDriver
