import PipDriver.Shell.Sum

/-!
Conditions about files, texts and numbers, as commands take them word by word.
-/

namespace PipDriver.Shell

namespace Condition

inductive Kind
  | unary
  | binary
  | conjunction
  | disjunction
  | negation
  | opening
  | closing
  | operand
  | ending
deriving DecidableEq, Repr

def unaryWords : List Text := "bcdefghkLnOGprSstuwxz".toList.map fun letter => ['-', letter]

def binaryWords : List Text :=
  ["=", "!=", "<", ">", "-eq", "-ne", "-gt", "-ge", "-lt", "-le", "-nt", "-ot", "-ef"]

def plainKind (word : Text) : Kind :=
  if word ∈ unaryWords then .unary
  else if word ∈ binaryWords then .binary
  else if word = "-a" then .conjunction
  else if word = "-o" then .disjunction
  else if word = "!" then .negation
  else if word = "(" then .opening
  else if word = ")" then .closing
  else .operand

def kind (words : List Text) : Kind :=
  match words with
  | [] => .ending
  | word :: rest =>
    let found := plainKind word
    let isOperand := match rest with
      | [] => true
      | [_] => false
      | second :: _ => plainKind second = .binary
    if found = .unary && isOperand then .operand
    else if found = .opening && rest = [] then .operand
    else found

abbrev Test := StateT (List Text) Action

def fail (word reason : Text) : Test α :=
  Action.fail (if word = [] then reason else word ++ ": " ++ reason)

def advance (count : Nat) : Test Unit := modify fun words => words.drop count

def current : Test Text := do return (← get).headD []

def number (text : Text) : Test Int := do
  let isSpace (character : Char) : Bool := character ∈ " \t\n\x0b\x0c\x0d".toList
  let trimmed := ((text.dropWhile isSpace).reverse.dropWhile isSpace).reverse
  let (negative, digits) := match trimmed with
    | '-' :: rest => (true, rest)
    | '+' :: rest => (false, rest)
    | rest => (false, rest)
  let value : Int := Escape.digitsValue 10 digits
  let signed := if negative then -value else value
  if digits ≠ [] && digits.all Char.isDigit && -0x8000000000000000 ≤ signed && signed < 0x8000000000000000 then return signed
  else Action.fail ("Illegal number: " ++ text)

def ofFile (state : State) (operator : Text) (operand : Text) : Bool :=
  let disk := state.machine.disk
  let path := Path.ofBytewise operand
  let follows := operator ≠ "-h" && operator ≠ "-L"
  match disk.find state.folder path follows with
  | .ok (.occupied _ entry) =>
    if operator = "-f" then match entry with
      | .file _ => true
      | _ => false
    else if operator = "-d" then entry = .folder
    else if operator = "-h" || operator = "-L" then match entry with
      | .link _ => true
      | _ => false
    else if operator = "-s" then match entry with
      | .file file => file.bytes.size ≠ 0
      | .folder => true
      | _ => false
    else if operator = "-x" then match entry with
      | .file file => file.executable
      | .folder => true
      | _ => false
    else if operator = "-c" then match entry with
      | .device _ => true
      | _ => false
    else operator ∈ (["-e", "-r", "-w", "-O", "-G"] : List Text)
  | _ => false

def isSameFile (state : State) (first second : Text) : Bool :=
  let place (text : Text) : Option Location :=
    match state.machine.disk.find state.folder (.ofBytewise text) with
    | .ok (.occupied location _) => some location
    | _ => none
  match place first, place second with
  | some one, some other => one = other
  | _, _ => false

def compareWith (operator : Text) (first second : Int) : Bool :=
  if operator = "-eq" then first = second
  else if operator = "-ne" then first ≠ second
  else if operator = "-gt" then first > second
  else if operator = "-ge" then first ≥ second
  else if operator = "-lt" then first < second
  else first ≤ second

def holdsBetween (operator first second : Text) : Test Bool := do
  let state : State ← getThe State
  if operator = "=" then return first = second
  else if operator = "!=" then return first ≠ second
  else if operator = "<" then return compare first second == .lt
  else if operator = ">" then return compare first second == .gt
  else if operator = "-nt" || operator = "-ot" then return false
  else if operator = "-ef" then return isSameFile state first second
  else
    let left ← number first
    let right ← number second
    return compareWith operator left right

mutual

def alternatives (fuel : Nat) (first : Kind) : Test Bool := do
  match fuel with
  | 0 => return false
  | fuel + 1 =>
    let result ← conjunctions fuel first
    if kind ((← get).drop 1) = .disjunction then
      advance 2
      let others ← alternatives fuel (kind (← get))
      return result || others
    else return result

def conjunctions (fuel : Nat) (first : Kind) : Test Bool := do
  match fuel with
  | 0 => return false
  | fuel + 1 =>
    let result ← negation fuel first
    if kind ((← get).drop 1) = .conjunction then
      advance 2
      let others ← conjunctions fuel (kind (← get))
      return result && others
    else return result

def negation (fuel : Nat) (first : Kind) : Test Bool := do
  match fuel with
  | 0 => return false
  | fuel + 1 =>
    if first = .negation then
      let next := kind ((← get).drop 1)
      if next ≠ .ending then advance 1
      return !(← negation fuel next)
    else primary fuel first

def primary (fuel : Nat) (first : Kind) : Test Bool := do
  match fuel with
  | 0 => return false
  | fuel + 1 =>
    match first with
    | .ending => return false
    | .opening =>
      advance 1
      let next := kind (← get)
      if next = .closing then return false
      let result ← alternatives fuel next
      advance 1
      if kind (← get) ≠ .closing then fail [] "closing paren expected"
      return result
    | .unary =>
      let operator ← current
      advance 1
      match ← get with
      | [] => fail operator "argument expected"
      | operand :: _ =>
        if operator = "-z" then return operand = []
        else if operator = "-n" then return operand ≠ []
        else if operator = "-t" then
          discard (number operand)
          return false
        else return ofFile (← getThe State) operator operand
    | _ =>
      match ← get with
      | word :: rest =>
        if kind rest = .binary then
          match rest with
          | operator :: second :: _ =>
            advance 2
            holdsBetween operator word second
          | operator :: [] => fail operator "argument expected"
          | [] => return word ≠ []
        else return word ≠ []
      | [] => return false

end

def holds (fuel : Nat) (words : List Text) : Test Bool := do
  match fuel with
  | 0 => return false
  | fuel + 1 =>
    let whole (words : List Text) (first : Kind) : Test Bool := do
      set words
      let result ← alternatives (4 * words.length + 8) first
      match ← get with
      | word :: _ :: _ => fail word "unexpected operator"
      | _ => return result
    match words with
    | [] => return false
    | [first, second, third] =>
      if plainKind second = .binary then whole words .operand
      else if first = "(" && third = ")" then whole [second] (kind [second])
      else if first = "!" then return !(← holds fuel [second, third])
      else whole words (kind words)
    | [first, second, third, fourth] =>
      if first = "(" && fourth = ")" then whole [second, third] (kind [second, third])
      else if first = "!" then return !(← holds fuel [second, third, fourth])
      else whole words (kind words)
    | words => whole words (kind words)

end Condition

def testCode (words : List Text) : Action Nat := do
  let (result, _) ← (Condition.holds (words.length + 1) words).run words
  return if result then 0 else 1

end PipDriver.Shell
