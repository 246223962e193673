import PipDriver.Shell.Builtin.Options

/-!
The commands of a shell for its flags, its parameters, and the permissions of new files.
-/

namespace PipDriver.Shell.Builtin

def flagNames : List (Char × Text) :=
  [('e', "errexit"), ('f', "noglob"), ('I', "ignoreeof"), ('i', "interactive"), ('m', "monitor"),
   ('n', "noexec"), ('s', "stdin"), ('x', "xtrace"), ('v', "verbose"), ('V', "vi"), ('E', "emacs"),
   ('C', "noclobber"), ('a', "allexport"), ('b', "notify"), ('u', "nounset"), ('p', "privileged"),
   ('1', "nolog"), ('2', "debug")]

def setFlag (flag : Char) (on : Bool) : Action Unit :=
  modify fun state =>
    let others := state.flags.filter (· ≠ flag)
    { state with flags := if on then flag :: others else others }

def setLetter (letter : Char) (on : Bool) : Action Unit := do
  if !letter.isDigit && flagNames.any fun entry => entry.1 = letter then setFlag letter on
  else Action.fail ("Illegal option -" ++ [letter])

def setNamed (name : Text) (on : Bool) : Action Unit := do
  match flagNames.find? fun entry => entry.2 = name with
  | some (flag, _) => setFlag flag on
  | none => Action.fail ("Illegal option -o " ++ name)

def listFlags (state : State) (asCommands : Bool) : Text :=
  let line (entry : Char × Text) : Text :=
    let isOn := state.hasFlag entry.1
    if asCommands then "set " ++ (if isOn then "-o " else "+o ").toList ++ entry.2 ++ ['\n']
    else
      let padded := entry.2 ++ List.replicate (16 - entry.2.length) ' '
      padded ++ (if isOn then "on" else "off").toList ++ ['\n']
  (if asCommands then [] else "Current option settings\n".toList) ++ flagNames.flatMap line

def setParameters (parameters : List Text) : Action Unit :=
  modify fun state => { state with parameters, optionIndex := 1, optionOffset := none }

def setCluster (on : Bool) (rest : List Text) : Text → Action (List Text)
  | [] => return rest
  | letter :: more => do
    if letter = 'o' then
      match rest with
      | [] =>
        discard (Action.display (listFlags (← get) !on))
        setCluster on rest more
      | name :: others =>
        setNamed name on
        setCluster on others more
    else
      setLetter letter on
      setCluster on rest more

def setWords (fuel : Nat) (words : List Text) : Action (Option (List Text)) := do
  match fuel, words with
  | 0, _ => return none
  | _, [] => return none
  | fuel + 1, word :: rest =>
    match word with
    | ['-'] =>
      setFlag 'x' false
      setFlag 'v' false
      return if rest = [] then none else some rest
    | ['-', '-'] => return some rest
    | '-' :: letters => do setWords fuel (← setCluster true rest letters)
    | '+' :: letters => do setWords fuel (← setCluster false rest letters)
    | _ => return some (word :: rest)

def listVariables (start : Text) (known : List Variable) : Text :=
  let sorted := known.mergeSort fun first second => compare first.name second.name != .gt
  sorted.flatMap fun entry =>
    let front := if start = [] then entry.name else start ++ ' ' :: entry.name
    match entry.value with
    | some value => front ++ '=' :: singleQuoted value ++ ['\n']
    | none => front ++ ['\n']

def setCommand (arguments : List Text) : Action Nat := do
  if arguments = [] then
    let known := (← get).bindings.filter fun entry => entry.value.isSome
    Action.display (listVariables [] known)
  else
    match ← setWords (arguments.length + 1) arguments with
    | some parameters => setParameters parameters
    | none => pure ()
    return 0

def shift (arguments : List Text) : Action Nat := do
  let count ← match arguments with
    | [] => pure 1
    | word :: _ => plainNumber word
  let state ← get
  if state.parameters.length < count then Action.fail "can't shift that many"
  setParameters (state.parameters.drop count)
  return 0

structure OptionStep where
  letter : Char := '?'
  argument : Option Text := none
  index : Nat
  offset : Option Nat := none
  complaint : Option Text := none
  ended : Bool := false

def optionKind? (letter : Char) : Text → Option Bool
  | [] => none
  | known :: ':' :: rest => if known = letter then some true else optionKind? letter rest
  | known :: rest => if known = letter then some false else optionKind? letter rest

def readOption (letters : Text) (words : List Text) (index : Nat) (offset : Option Nat) : OptionStep :=
  let quiet := letters.head? = some ':'
  let inside := match offset with
    | some offset => (words.getD (index - 2) []).drop offset
    | none => []
  let ended (index : Nat) : OptionStep := { index, ended := true }
  let read (text : Text) (index : Nat) : OptionStep :=
    match text with
    | [] => ended index
    | letter :: rest =>
      let after := if rest = [] then none
        else some ((words.getD (index - 2) []).length - rest.length)
      match optionKind? letter letters with
      | none =>
        if quiet then { argument := some [letter], index, offset := after }
        else { index, offset := after, complaint := some ("Illegal option -" ++ letter :: "\n".toList) }
      | some false => { letter, argument := some [], index, offset := after }
      | some true =>
        if rest ≠ [] then { letter, argument := some rest, index }
        else match words[index - 1]? with
          | some argument => { letter, argument := some argument, index := index + 1 }
          | none =>
            if quiet then { letter := ':', argument := some [letter], index }
            else { index, complaint := some ("No arg for -" ++ letter :: " option\n".toList) }
  if inside ≠ [] then read inside index
  else match words[index - 1]? with
    | some ['-', '-'] => ended (index + 1)
    | some ('-' :: first :: others) => read (first :: others) (index + 1)
    | _ => ended index

def readOptionCommand (arguments : List Text) : Action Nat := do
  let (_, words) ← readOptions [] [] arguments
  match words with
  | letters :: name :: own =>
    let state ← get
    let words := if own = [] then state.parameters else own
    let isBeyond := words.length + 1 < state.optionIndex
    let index := if isBeyond then 1 else state.optionIndex
    let step := readOption letters words index (if isBeyond then none else state.optionOffset)
    match step.complaint with
    | some text =>
      discard (Action.emit 2 text)
      Action.unset "OPTARG"
    | none => if !step.ended then Action.assign "OPTARG" step.argument
    Action.assign "OPTIND" (some (Text.ofNat step.index))
    if !isName name then Action.fail (name ++ ": bad variable name")
    Action.assign name (some [step.letter])
    modify fun state => { state with optionIndex := step.index, optionOffset := step.offset }
    return if step.ended then 1 else 0
  | _ => Action.fail "Usage: getopts optstring var [arg...]"

def permissions (mask shift : Nat) : Text :=
  let allowed := 7 - (mask >>> shift) % 8
  (if 4 ≤ allowed then ['r'] else []) ++ (if 2 ≤ allowed % 4 then ['w'] else []) ++
    (if allowed % 2 = 1 then ['x'] else [])

def permissionBits (letters : Text) : Nat :=
  (if 'r' ∈ letters then 4 else 0) + (if 'w' ∈ letters then 2 else 0) + (if 'x' ∈ letters then 1 else 0)

def changedMask? (mask : Nat) (clause : Text) : Option Nat :=
  let who := clause.takeWhile (· ∈ "ugoa".toList)
  match clause.drop who.length with
  | sign :: letters =>
    if sign ∉ "=+-".toList || !letters.all (· ∈ "rwxXst".toList) then none
    else
      let groups : List (Char × Nat) := [('u', 6), ('g', 3), ('o', 0)]
      let bits := permissionBits letters
      some (groups.foldl (fun mask (letter, shift) =>
        if who = [] || 'a' ∈ who || letter ∈ who then
          let old := (mask >>> shift) % 8
          let new := if sign = '=' then 7 - bits
            else if sign = '+' then old - (old &&& bits)
            else old ||| bits
          mask - old <<< shift + new <<< shift
        else mask) mask)
  | [] => none

def setMask (arguments : List Text) : Action Nat := do
  let (options, words) ← readOptions ['S'] [] arguments
  let state ← get
  match words with
  | [] =>
    let digits := Nat.toDigits 8 state.mask
    Action.display (if options = [] then List.replicate (4 - digits.length) '0' ++ digits ++ ['\n']
      else "u=" ++ permissions state.mask 6 ++ ",g=" ++ permissions state.mask 3 ++ ",o=" ++
        permissions state.mask 0 ++ ['\n'])
  | word :: _ =>
    let fresh ←
      if word.head?.any Char.isDigit then
        if word.all Escape.isOctal then pure (Escape.digitsValue 8 word % 512)
        else Action.fail ("Illegal number: " ++ word)
      else
        let clauses := Text.fields ',' word
        match clauses.foldl (fun mask clause => mask.bind fun mask => changedMask? mask clause)
            (some state.mask) with
        | some mask => pure mask
        | none => Action.fail ("Illegal mode: " ++ word)
    modify fun state => { state with mask := fresh }
    return 0

def limits (arguments : List Text) : Action Nat := do
  let (options, _) ← readOptions "HSatfdscmlpnvwre".toList [] arguments
  let isCore := options.any fun option => option.1 = 'c'
  Action.display (if isCore then "0\n" else "unlimited\n")

end PipDriver.Shell.Builtin
