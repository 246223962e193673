import PipDriver.Text

/-!
Patterns of a shell: a star fits any text, a question mark any character, brackets one of a set, and every
other character, or one that was quoted, itself.
-/

namespace PipDriver.Shell

abbrev Pattern := List (Char × Bool)

def classMember? (name : Text) (character : Char) : Option Bool :=
  let shown := 33 ≤ character.toNat && character.toNat ≤ 126
  let lower := 'a' ≤ character && character ≤ 'z'
  let upper := 'A' ≤ character && character ≤ 'Z'
  let digit := character.isDigit
  if name = "alpha" then some (lower || upper)
  else if name = "digit" then some digit
  else if name = "alnum" then some (lower || upper || digit)
  else if name = "lower" then some lower
  else if name = "upper" then some upper
  else if name = "space" then some (character = ' ' || (9 ≤ character.toNat && character.toNat ≤ 13))
  else if name = "blank" then some (character = ' ' || character = '\t')
  else if name = "punct" then some (shown && !(lower || upper || digit))
  else if name = "graph" then some shown
  else if name = "print" then some (shown || character = ' ')
  else if name = "cntrl" then some (character.toNat < 32 || character.toNat = 127)
  else if name = "xdigit" then
    some (digit || ('a' ≤ character && character ≤ 'f') || ('A' ≤ character && character ≤ 'F'))
  else none

def rank (character : Char) : Nat := (character.toNat + 128) % 256

def classAt? (character : Char) (pattern : Pattern) : Option (Bool × Pattern) :=
  match pattern with
  | (':', _) :: rest =>
    let name := (rest.map Prod.fst).takeWhile Char.isAlpha
    match (rest.drop name.length).map Prod.fst with
    | ':' :: ']' :: _ =>
      (classMember? name character).map fun found => (found, rest.drop (name.length + 2))
    | _ => none
  | _ => none

def setAt? (fuel : Nat) (character : Char) (first found : Bool) (pattern : Pattern) :
    Option (Bool × Pattern) :=
  match fuel, pattern with
  | 0, _ => none
  | _, [] => none
  | fuel + 1, (sign, quoted) :: rest =>
    if sign = ']' && !quoted && !first then some (found, rest)
    else match (if sign = '[' && !quoted then classAt? character rest else none) with
      | some (member, after) => setAt? fuel character false (found || member) after
      | none =>
        match rest with
        | ('-', false) :: (high, highQuoted) :: after =>
          if high = ']' && !highQuoted then setAt? fuel character false (found || sign = character) rest
          else
            let member := rank sign ≤ rank character && rank character ≤ rank high
            setAt? fuel character false (found || member) after
        | _ => setAt? fuel character false (found || sign = character) rest

def fits (fuel : Nat) (pattern : Pattern) (text : Text) : Bool :=
  match fuel with
  | 0 => false
  | fuel + 1 =>
    match pattern with
    | [] => text.isEmpty
    | ('*', false) :: rest =>
      fits fuel rest text || (match text with
        | [] => false
        | _ :: others => fits fuel pattern others)
    | ('?', false) :: rest =>
      match text with
      | [] => false
      | _ :: others => fits fuel rest others
    | (sign, quoted) :: rest =>
      match text with
      | [] => false
      | character :: others =>
        let turned := rest.head? = some ('!', false)
        let inner := if turned then rest.tail else rest
        match (if sign = '[' && !quoted then
            setAt? (inner.length + 1) character true false inner else none) with
        | some (found, after) => found != turned && fits fuel after others
        | none => sign = character && fits fuel rest others

def matchesPattern (pattern : Pattern) (text : Text) : Bool :=
  fits (pattern.length + text.length + 1) pattern text

def dropFront (longest : Bool) (pattern : Pattern) (text : Text) : Text :=
  let lengths := if longest then (List.range (text.length + 1)).reverse else List.range (text.length + 1)
  match lengths.find? fun length => matchesPattern pattern (text.take length) with
  | some length => text.drop length
  | none => text

def dropBack (longest : Bool) (pattern : Pattern) (text : Text) : Text :=
  let lengths := if longest then List.range (text.length + 1) else (List.range (text.length + 1)).reverse
  match lengths.find? fun length => matchesPattern pattern (text.drop length) with
  | some length => text.take length
  | none => text

def isOpen (pattern : Pattern) : Bool := pattern.any fun (sign, quoted) => !quoted && sign ∈ "*?[".toList

end PipDriver.Shell
