import PipDriver.Shell.Glob
import PipDriver.Shell.Sum

/-!
Expansion of words: parameters, commands and sums give way to their outcome, what was not quoted is split into
fields, and fields that are patterns give way to the paths that fit.
-/

namespace PipDriver.Shell

inductive Part
  | char (character : Char) (quoted splits : Bool)
  | mark
  | cut (hard : Bool)
deriving DecidableEq, Repr

abbrev Runner := Script → Action Text

def plainParts (quoted : Bool) (text : Text) : List Part :=
  text.map fun character => .char character quoted (!quoted)

def shownFlags (state : State) : Text :=
  "pubaCEVvxsnmiIfe".toList.filter state.hasFlag

def joint (state : State) : Text := state.separators.take 1

def joined (state : State) : Text := (joint state).intercalate state.parameters

def parameterValue? (state : State) (name : Text) : Option Text :=
  match name with
  | ['@'] => if state.parameters = [] then none else some (joined state)
  | ['*'] => if state.parameters = [] then none else some (joined state)
  | ['#'] => some (Text.ofNat state.parameters.length)
  | ['?'] => some (Text.ofNat state.code)
  | ['$'] => some (Text.ofNat state.number)
  | ['-'] => some (shownFlags state)
  | ['!'] => state.lastJob.map Text.ofNat
  | name =>
    if name.all Char.isDigit then
      match Escape.digitsValue 10 name with
      | 0 => some state.name
      | index + 1 => state.parameters[index]?
    else state.valueOf? name

def listParts (quoted : Bool) (parameters : List Text) : List Part :=
  (if quoted then [.mark] else []) ++
    [Part.cut quoted].intercalate (parameters.map (plainParts quoted))

def homeOf? (state : State) (name : Text) : Option Text :=
  if name = [] then state.valueOf? "HOME"
  else (state.machine.accounts.find? fun account => account.name = name).map fun account => account.home

def withHome (state : State) (assigned : Bool) (word : Word) : Word :=
  match word with
  | .char '~' false :: rest =>
    let name := (rest.map Piece.bare?).takeWhile fun character =>
      character.any fun character => character ≠ '/' && !(assigned && character = ':')
    let after := rest.drop name.length
    let ends := match after with
      | [] => true
      | .char character false :: _ => character = '/' || (assigned && character = ':')
      | _ => false
    match (if ends then homeOf? state (name.filterMap id) else none) with
    | some home => Word.quoted home ++ after
    | none => word
  | _ => word

def withHomes (state : State) (fuel : Nat) (word : Word) : Word :=
  match fuel with
  | 0 => word
  | fuel + 1 =>
    let replaced := withHome state true word
    let front := replaced.takeWhile fun piece => piece.bare? ≠ some ':'
    match replaced.drop front.length with
    | colon :: rest => front ++ colon :: withHomes state fuel rest
    | [] => replaced

namespace Part

def text : Part → Text
  | .char character _ _ => [character]
  | _ => []

end Part

def partsText (state : State) (parts : List Part) : Text :=
  parts.flatMap fun
    | .cut _ => joint state
    | part => part.text

def partsPattern (state : State) : List Part → Pattern
  | [] => []
  | .char '\\' false _ :: .char character _ _ :: rest => (character, true) :: partsPattern state rest
  | .char character quoted _ :: rest => (character, quoted) :: partsPattern state rest
  | .mark :: rest => partsPattern state rest
  | .cut _ :: rest => (joint state).map (fun character => (character, true)) ++ partsPattern state rest

def isAllParameters : Word → Bool
  | .mark :: .parameter ['@'] .keep true :: .mark :: _ => true
  | _ => false

def isParameterList (name : Text) : Bool := name = "@" || name = "*"

def missing (name : Text) (emptyToo : Bool) : Action α :=
  Action.fail (name ++ ": parameter not set" ++ (if emptyToo then " or null".toList else []))

def checkSet (name : Text) (value : Option Text) : Action Unit := do
  if value.isNone && (← get).hasFlag 'u' && !isParameterList name then missing name false

mutual

def wordParts (runner : Runner) (fuel : Nat) (fields : Bool) (word : Word) : Action (List Part) := do
  match fuel with
  | 0 => Action.fail "Out of space"
  | fuel + 1 =>
    match word with
    | [] => return []
    | piece :: rest =>
      if isAllParameters word && fields then
        let parameters := (← get).parameters
        let front := if parameters = [] then [] else listParts true parameters
        return front ++ (← wordParts runner fuel fields (word.drop 3))
      else
        let front ← pieceParts runner fuel fields piece
        return front ++ (← wordParts runner fuel fields rest)

def pieceParts (runner : Runner) (fuel : Nat) (fields : Bool) (piece : Piece) : Action (List Part) := do
  match fuel with
  | 0 => Action.fail "Out of space"
  | fuel + 1 =>
    match piece with
    | .char character quoted => return [.char character quoted false]
    | .mark => return [.mark]
    | .output script quoted =>
      let text ← runner script
      let kept := (text.reverse.dropWhile (· = '\n')).reverse.filter (· ≠ '\x00')
      return plainParts quoted kept
    | .number expression quoted =>
      let parts ← wordParts runner fuel false expression
      let value ← Sum.evaluate (partsText (← get) parts)
      return plainParts quoted (Text.ofInt value)
    | .parameter name change quoted =>
      let state ← get
      let value := parameterValue? state name
      match change with
      | .unknown => Action.fail "Bad substitution"
      | .keep =>
        checkSet name value
        if fields && (name = "@" || (name = "*" && !quoted)) then
          return (listParts quoted state.parameters).drop (if state.parameters = [] then 1 else 0)
        else return plainParts quoted (value.getD [])
      | .length =>
        checkSet name value
        return plainParts quoted (Text.ofNat (value.getD []).length)
      | .trim fromEnd longest pattern =>
        checkSet name value
        let pattern := partsPattern (← get) (← wordParts runner fuel false (withHome state false pattern))
        let drop := if fromEnd then dropBack else dropFront
        return plainParts quoted (drop longest pattern (value.getD []))
      | .choose choice emptyToo word =>
        let isThere := match value with
          | none => false
          | some text => !emptyToo || text ≠ []
        let wanted : Action (List Part) := do
          let parts ← wordParts runner fuel fields (withHome state false word)
          return parts.map fun
            | .char character false _ => .char character false (!quoted)
            | part => part
        let own : Action (List Part) := do
          if fields && isParameterList name && !(quoted && name = "*") then
            return listParts quoted state.parameters
          else return plainParts quoted (value.getD [])
        match choice with
        | .otherwise => if isThere then own else wanted
        | .instead => if isThere then wanted else return []
        | .assign =>
          if isThere then own
          else
            let parts ← wordParts runner fuel false (withHome state false word)
            let text := partsText (← get) parts
            if !isName name then Action.fail (name ++ ": bad variable name")
            Action.assign name (some text)
            return plainParts quoted text
        | .fail =>
          if isThere then own
          else
            let parts ← wordParts runner fuel false word
            if word.isEmpty then missing name emptyToo
            else Action.fail (name ++ ": " ++ partsText (← get) parts)

end

structure Split where
  current : Option (List Part) := none
  passes : Option Bool := none
  fields : List (List Part) := []

namespace Split

def push (split : Split) (part : Part) : Split :=
  { split with current := some (part :: split.current.getD []), passes := none }

def close (split : Split) (next : Option (List Part)) (passes : Option Bool) : Split :=
  { current := next, passes, fields := (split.current.getD []).reverse :: split.fields }

def step (separators : Text) (split : Split) (part : Part) : Split :=
  match part with
  | .mark => { split with current := some (split.current.getD []), passes := none }
  | .cut true => split.close (some []) none
  | .cut false => if split.current.isSome then split.close none (some true) else split
  | .char character _ splits =>
    if !splits || character ∉ separators then split.push part
    else if character ∈ " \t\n".toList then
      if split.current.isSome then split.close none (some true) else split
    else match split.passes with
      | some true => { split with passes := some false }
      | _ => split.close none (some false)

end Split

def fieldsOf (separators : Text) (parts : List Part) : List (List Part) :=
  let split := parts.foldl (Split.step separators) {}
  (match split.current with
    | some current => current.reverse :: split.fields
    | none => split.fields).reverse

namespace Expansion

variable (runner : Runner) (fuel : Nat)

def text (word : Word) : Action Text := do
  let parts ← wordParts runner fuel false (withHome (← get) false word)
  return partsText (← get) parts

def value (word : Word) : Action Text := do
  let parts ← wordParts runner fuel false (withHomes (← get) word.length word)
  return partsText (← get) parts

def pattern (word : Word) : Action Pattern := do
  let parts ← wordParts runner fuel false (withHome (← get) false word)
  return partsPattern (← get) parts

def fields (word : Word) : Action (List Text) := do
  let parts ← wordParts runner fuel true (withHome (← get) false word)
  let state ← get
  return (fieldsOf state.separators parts).flatMap fun field =>
    let plain := field.flatMap Part.text
    let pattern := partsPattern state field
    if state.hasFlag 'f' || !isOpen pattern then [plain]
    else match Shell.expandPattern state.machine.disk state.folder pattern with
      | [] => [plain]
      | found => found

def document (word : Word) : Action Text := do
  let parts ← wordParts runner fuel false word
  return partsText (← get) parts

end Expansion

end PipDriver.Shell
