import PipDriver.Text

/-!
Labels outside ASCII in their ASCII form: plain characters, a hyphen, and a string of digits that say
where the other characters go.
-/

namespace PipDriver.Address.Punycode

def digit? (character : Char) : Option Nat :=
  if 'a' ≤ character && character ≤ 'z' then some (character.toNat - 'a'.toNat)
  else if '0' ≤ character && character ≤ '9' then some (character.toNat - '0'.toNat + 26)
  else none

def threshold (position bias : Nat) : Nat := max 1 (min 26 (position - bias))

def largest : Nat := 0xFFFFFFFF

def readNumber (bias position weight total : Nat) : List Nat → Option (Nat × List Nat)
  | [] => none
  | digit :: rest =>
    let sum := total + digit * weight
    let bound := threshold position bias
    if digit < bound then some (sum, rest)
    else if largest < weight * (36 - bound) then none
    else readNumber bias (position + 36) (weight * (36 - bound)) sum rest

def scaleDown (fuel amount steps : Nat) : Nat × Nat :=
  match fuel with
  | 0 => (amount, steps)
  | fuel + 1 => if 455 < amount then scaleDown fuel (amount / 35) (steps + 36) else (amount, steps)

def adapt (amount count : Nat) (first : Bool) : Nat :=
  let damped := amount / (if first then 700 else 2)
  let (rest, steps) := scaleDown 20 (damped + damped / count) 0
  steps + 36 * rest / (rest + 38)

def insertAll (rounds code place bias : Nat) (text : Text) (digits : List Nat) : Option Text :=
  match digits with
  | [] => some text
  | _ =>
    match rounds with
    | 0 => none
    | rounds + 1 =>
      match readNumber bias 36 1 0 digits with
      | none => none
      | some (amount, rest) =>
        let count := text.length + 1
        let reached := place + amount
        let next := code + reached / count
        let index := reached % count
        if largest < reached || 0x10FFFF < next || (0xD800 ≤ next && next ≤ 0xDFFF) then none
        else insertAll rounds next (index + 1) (adapt amount count (place = 0))
          (text.take index ++ Char.ofNat next :: text.drop index) rest

def decode? (label : Text) : Option Text :=
  let tail := label.reverse.takeWhile (· ≠ '-')
  let plain := (label.reverse.drop (tail.length + 1)).reverse
  let digits := if plain = [] && tail.length < label.length then label else tail.reverse
  match digits.mapM digit? with
  | none => none
  | some numbers => insertAll numbers.length 128 0 72 plain numbers

end PipDriver.Address.Punycode
