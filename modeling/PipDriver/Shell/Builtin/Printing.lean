import PipDriver.Process.Printf
import PipDriver.Shell.Builtin.Options

/-!
The commands of a shell that print texts and that read lines.
-/

namespace PipDriver.Shell.Builtin

def argumentEscapes : EscapeRules where
  extraZero := true

def echoWords : List Text → Escape.Printed
  | [] => { text := [] }
  | [word] => Escape.interpret argumentEscapes word
  | word :: rest =>
    let printed := Escape.interpret argumentEscapes word
    if printed.stopped then printed else (echoWords rest).after (printed.text ++ [' '])

def echo (arguments : List Text) : Action Nat := do
  let (words, stays) := match arguments with
    | ['-', 'n'] :: rest => (rest, true)
    | words => (words, false)
  let printed := echoWords words
  Action.display (printed.text ++ (if stays || printed.stopped then [] else ['\n']))

def printfManner : Printf.Manner where
  format := { quote := true, stops := false }
  argument := argumentEscapes
  flawed argument flaw := argument ++ ": " ++ match flaw with
    | .noNumber => "expected numeric value"
    | .partly => "not completely converted"
    | .tooLarge => "Numerical result out of range"
  unknown place := place ++ ": invalid directive"
  unfinished _ := "missing format character"
  brokenCode := 2
  sizes := false

def printf (arguments : List Text) : Action Nat := do
  let (_, words) ← readOptions [] [] arguments
  match words with
  | [] => Action.fail "usage: printf format [arg ...]"
  | format :: rest =>
    let progress := Printf.run printfManner format rest
    progress.complaints.forM Action.complain
    Action.deliver { written := [(false, progress.printed.toBytes)], code := progress.code }

def takeLine (raw : Bool) (fuel : Nat) (escaped : Bool) (sofar : List (Char × Bool)) :
    Action (List (Char × Bool) × Bool) := do
  match fuel with
  | 0 => return (sofar.reverse, false)
  | fuel + 1 =>
    let state ← get
    match state.machine.take state.channels 0 (some 1) with
    | .error _ => return (sofar.reverse, false)
    | .ok (bytes, machine) =>
      set { state with machine }
      match Text.ofBytes bytes with
      | [] => return (sofar.reverse, false)
      | character :: _ =>
        if character = '\x00' then takeLine raw fuel escaped sofar
        else if escaped then
          takeLine raw fuel false (if character = '\n' then sofar else (character, true) :: sofar)
        else if character = '\\' && !raw then takeLine raw fuel true sofar
        else if character = '\n' then return (sofar.reverse, true)
        else takeLine raw fuel false ((character, false) :: sofar)

def lastField (separators : Text) (kept : Text) (cut : Option Text) (afterBlank : Bool) :
    List (Char × Bool) → Text
  | [] => (cut.getD kept).reverse
  | (character, escaped) :: rest =>
    if escaped then lastField separators (character :: kept) cut afterBlank rest
    else
      let separates := character ∈ separators
      if separates && character ∈ " \t\n".toList then
        lastField separators (character :: kept) (some (cut.getD kept)) afterBlank rest
      else if separates && afterBlank then
        lastField separators (character :: kept) cut false rest
      else lastField separators (character :: kept) none false rest

def dropSeparators (separators : Text) (other : Bool) : List (Char × Bool) → List (Char × Bool)
  | [] => []
  | (character, escaped) :: rest =>
    if escaped || character ∉ separators then (character, escaped) :: rest
    else if character ∈ " \t\n".toList then dropSeparators separators other rest
    else if other then dropSeparators separators false rest
    else (character, escaped) :: rest

def lineFields (separators : Text) (names : Nat) (fuel : Nat) (current : Text) (line : List (Char × Bool)) :
    List Text :=
  match fuel, line with
  | 0, _ => []
  | _, [] => if current = [] then [] else [current.reverse]
  | fuel + 1, (character, escaped) :: rest =>
    if escaped || character ∉ separators then
      lineFields separators names fuel (character :: current) rest
    else
      let isBlank := character ∈ " \t\n".toList
      if isBlank && current = [] then lineFields separators names fuel [] rest
      else if names ≤ 1 then
        let field := lastField separators (character :: current) (some current) isBlank rest
        if field = [] then [] else [field]
      else
        current.reverse ::
          lineFields separators (names - 1) fuel [] (dropSeparators separators isBlank rest)

def assignFields : List Text → List Text → Action Unit
  | [], _ => return
  | name :: names, fields => do
    if !isName name then Action.fail (name ++ ": bad variable name")
    Action.assign name (some (fields.headD []))
    assignFields names fields.tail

def readLine (arguments : List Text) : Action Nat := do
  let (options, names) ← readOptions ['r'] ['p'] arguments
  if names = [] then Action.fail "arg count"
  let raw := options.any fun option => option.1 = 'r'
  let state ← get
  let waiting := state.machine.streams.foldl (fun size stream =>
    match stream with
    | .pipe bytes => size + bytes.size
    | .file location _ _ => match state.machine.disk.get? location with
      | some (.file file) => size + file.bytes.size
      | _ => size
    | _ => size) 1
  let (line, ended) ← takeLine raw (waiting + 1) false []
  let fields := lineFields state.separators names.length (line.length + 1) [] line
  assignFields names fields
  return if ended then 0 else 1

end PipDriver.Shell.Builtin
