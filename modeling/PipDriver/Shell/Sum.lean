import PipDriver.Process.Escape
import PipDriver.Shell.State

/-!
Sums: whole numbers of 64 bits with the operators of the language C, and variables. A sum is evaluated while it
is read, so that of two faults the one further to the left is reported.
-/

namespace PipDriver.Shell

namespace Sum

inductive Token
  | number (value : Int)
  | name (text : Text)
  | operator (text : Text)
deriving DecidableEq, Repr

def wrap (value : Int) : Int := Int.bmod value 0x10000000000000000

def largest : Int := 0x7FFFFFFFFFFFFFFF

def numeral (text : Text) : Int × Nat :=
  let reading (base : Nat) (digits : Text) : Int := min (Escape.digitsValue base digits) largest
  match text with
  | '0' :: 'x' :: rest =>
    let digits := rest.takeWhile Escape.isHexadecimal
    if digits = [] then (0, 1) else (reading 16 digits, digits.length + 2)
  | '0' :: 'X' :: rest =>
    let digits := rest.takeWhile Escape.isHexadecimal
    if digits = [] then (0, 1) else (reading 16 digits, digits.length + 2)
  | '0' :: rest =>
    let digits := rest.takeWhile Escape.isOctal
    (reading 8 digits, digits.length + 1)
  | text =>
    let digits := text.takeWhile Char.isDigit
    (reading 10 digits, digits.length)

def longOperators : List Text :=
  ["<<=", ">>=", "<<", ">>", "<=", ">=", "==", "!=", "&&", "||", "+=", "-=", "*=", "/=", "%=", "&=", "|=",
   "^="]

def operators : List Text :=
  longOperators ++ "<>=!~?:+-*/%&|^()".toList.map fun sign => [sign]

def tokens (fuel : Nat) (text : Text) : List Token :=
  match fuel, text with
  | 0, _ => []
  | _, [] => []
  | fuel + 1, first :: rest =>
    if first ∈ " \t\n".toList then tokens fuel rest
    else if first.isDigit then
      let (value, length) := numeral (first :: rest)
      .number value :: tokens fuel ((first :: rest).drop length)
    else if isNameStart first then
      let name := first :: rest.takeWhile isNameChar
      .name name :: tokens fuel ((first :: rest).drop name.length)
    else match operators.find? fun operator => operator.isPrefixOf (first :: rest) with
      | some operator => .operator operator :: tokens fuel ((first :: rest).drop operator.length)
      | none => [.operator [first]]

def rank? (operator : Text) : Option Nat :=
  if operator ∈ (["*", "/", "%"] : List Text) then some 0
  else if operator ∈ (["+", "-"] : List Text) then some 1
  else if operator ∈ (["<<", ">>"] : List Text) then some 2
  else if operator ∈ (["<", "<=", ">", ">="] : List Text) then some 3
  else if operator ∈ (["==", "!="] : List Text) then some 4
  else if operator = "&" then some 5
  else if operator = "^" then some 6
  else if operator = "|" then some 7
  else none

def loosest : Nat := 8

def bits (value : Int) : Nat := (Int.emod value 0x10000000000000000).toNat

def truth (condition : Bool) : Int := if condition then 1 else 0

def combine? (operator : Text) (left right : Int) : Option Int :=
  let shift : Nat := bits right % 64
  if operator = "*" then some (wrap (left * right))
  else if operator = "/" then if right = 0 then none else some (wrap (Int.tdiv left right))
  else if operator = "%" then if right = 0 then none else some (Int.tmod left right)
  else if operator = "+" then some (wrap (left + right))
  else if operator = "-" then some (wrap (left - right))
  else if operator = "<<" then some (wrap (left * Nat.pow 2 shift))
  else if operator = ">>" then some (Int.fdiv left (Nat.pow 2 shift))
  else if operator = "<" then some (truth (left < right))
  else if operator = "<=" then some (truth (left ≤ right))
  else if operator = ">" then some (truth (left > right))
  else if operator = ">=" then some (truth (left ≥ right))
  else if operator = "==" then some (truth (left = right))
  else if operator = "!=" then some (truth (left ≠ right))
  else if operator = "&" then some (wrap (bits left &&& bits right : Nat))
  else if operator = "^" then some (wrap (bits left ^^^ bits right : Nat))
  else some (wrap (bits left ||| bits right : Nat))

/-- The number that a text spells, as a value of a variable; an empty one is zero. -/
def valueOf? (text : Text) : Option Int :=
  let isSpace (character : Char) : Bool := character ∈ " \t\n\x0b\x0c\x0d".toList
  let trimmed := text.dropWhile isSpace
  let (negative, digits) := match trimmed with
    | '-' :: rest => (true, rest)
    | '+' :: rest => (false, rest)
    | rest => (false, rest)
  if digits.head?.any Char.isDigit then
    let (value, length) := numeral digits
    if (digits.drop length).all isSpace then
      some (if negative then -value else value)
    else none
  else if trimmed = [] then some 0
  else none

structure Reader where
  text : Text
  tokens : List Token

abbrev Evaluation := StateT Reader Action

namespace Evaluation

def fail (reason : Text) : Evaluation α := do
  Action.fail ("arithmetic expression: " ++ reason ++ ": \"" ++ (← get).text ++ "\"")

def peek : Evaluation (Option Token) := do return (← get).tokens.head?

def skip : Evaluation Unit := modify fun reader => { reader with tokens := reader.tokens.tail }

def takes (operator : Text) : Evaluation Bool := do
  if (← peek) = some (.operator operator) then
    skip
    return true
  else return false

def apply (operator : Text) (left right : Int) : Evaluation Int := do
  match combine? operator left right with
  | some value => return value
  | none => fail "division by zero"

def valueOf (name : Text) : Evaluation Int := do
  let state : State ← getThe State
  let text := (state.valueOf? name).getD []
  match valueOf? text with
  | some value => return value
  | none => Action.fail ("Illegal number: " ++ text)

def peekOperator : Evaluation (Option (Text × Nat)) := do
  match ← peek with
  | some (.operator text) => return (rank? text).map fun rank => (text, rank)
  | _ => return none

mutual

def primary (fuel : Nat) (idle : Bool) : Evaluation Int := do
  match fuel with
  | 0 => fail "expecting primary"
  | fuel + 1 =>
    match ← peek with
    | some (.number value) =>
      skip
      return value
    | some (.name name) =>
      skip
      if idle then return 0 else valueOf name
    | some (.operator text) =>
      if text = "(" then
        skip
        let value ← assignment fuel idle
        if ← takes ")" then return value else fail "expecting ')'"
      else if text = "+" then
        skip
        primary fuel idle
      else if text = "-" then
        skip
        return wrap (-(← primary fuel idle))
      else if text = "!" then
        skip
        return truth ((← primary fuel idle) = 0)
      else if text = "~" then
        skip
        return -(← primary fuel idle) - 1
      else fail "expecting primary"
    | none => fail "expecting primary"

def operations (fuel : Nat) (idle : Bool) (limit : Nat) (left : Int) : Evaluation Int := do
  match fuel with
  | 0 => fail "expecting primary"
  | fuel + 1 =>
    match ← peekOperator with
    | some (operator, rank) =>
      if rank < limit then
        skip
        let first ← primary fuel idle
        let right ← operations fuel idle rank first
        let value ← if idle then pure right else apply operator left right
        operations fuel idle limit value
      else return left
    | none => return left

def conjunction (fuel : Nat) (idle : Bool) : Evaluation Int := do
  match fuel with
  | 0 => fail "expecting primary"
  | fuel + 1 =>
    let first ← primary fuel idle
    let left ← operations fuel idle loosest first
    if ← takes "&&" then
      let right ← conjunction fuel (idle || left = 0)
      return truth (left ≠ 0 && right ≠ 0)
    else return left

def disjunction (fuel : Nat) (idle : Bool) : Evaluation Int := do
  match fuel with
  | 0 => fail "expecting primary"
  | fuel + 1 =>
    let left ← conjunction fuel idle
    if ← takes "||" then
      let right ← disjunction fuel (idle || left ≠ 0)
      return truth (left ≠ 0 || right ≠ 0)
    else return left

def conditional (fuel : Nat) (idle : Bool) : Evaluation Int := do
  match fuel with
  | 0 => fail "expecting primary"
  | fuel + 1 =>
    let condition ← disjunction fuel idle
    if ← takes "?" then
      let yes ← assignment fuel (idle || condition = 0)
      if !(← takes ":") then fail "expecting ':'"
      let no ← conditional fuel (idle || condition ≠ 0)
      return if condition ≠ 0 then yes else no
    else return condition

def assignment (fuel : Nat) (idle : Bool) : Evaluation Int := do
  match fuel with
  | 0 => fail "expecting primary"
  | fuel + 1 =>
    match (← get).tokens with
    | .name name :: .operator operator :: rest =>
      let combined := operator.dropLast
      if operator = "=" || (operator.getLast? = some '=' && (rank? combined).isSome
          && (rank? operator).isNone) then
        modify fun reader => { reader with tokens := rest }
        let value ← assignment fuel idle
        if idle then return value
        let result ← if combined = [] then pure value else do apply combined (← valueOf name) value
        Action.assign name (some (Text.ofInt result))
        return result
      else conditional fuel idle
    | _ => conditional fuel idle

end

end Evaluation

def evaluate (text : Text) : Action Int := do
  let found := tokens text.length text
  let reading : Evaluation Int := do
    let value ← Evaluation.assignment (8 * found.length + 8) false
    if (← Evaluation.peek).isSome then Evaluation.fail "expecting EOF" else return value
  let (value, _) ← reading.run { text, tokens := found }
  return value

end Sum

end PipDriver.Shell
