import PipDriver.Text

/-!
What shell text means once it has been read: words made of pieces, redirections, and commands.
-/

namespace PipDriver.Shell

inductive Choice
  | otherwise
  | assign
  | fail
  | instead
deriving DecidableEq, Repr

inductive Direction
  | reads
  | writes
  | clobbers
  | appends
  | updates
  /-- One channel leads where another one does. -/
  | follows
  /-- The number of a text that stands below the command. -/
  | document (number : Nat)
deriving DecidableEq, Repr

mutual

inductive Piece
  | char (character : Char) (quoted : Bool)
  /-- A quote, by which even an empty stretch makes a field. -/
  | mark
  | parameter (name : Text) (change : Change) (quoted : Bool)
  | output (script : Script) (quoted : Bool)
  | number (expression : List Piece) (quoted : Bool)

inductive Change
  | keep
  | length
  | unknown
  | trim (fromEnd longest : Bool) (pattern : List Piece)
  /-- Whether an empty value counts as missing comes before the word. -/
  | choose (choice : Choice) (emptyToo : Bool) (word : List Piece)

inductive Redirection
  | mk (channel : Nat) (direction : Direction) (target : List Piece)

inductive Script
  | nothing
  | simple (line : Nat) (assignments words : List (List Piece)) (redirections : List Redirection)
  | sequence (first second : Script)
  | both (first second : Script)
  | either (first second : Script)
  | negate (inner : Script)
  | pipeline (stages : List Script)
  | background (line : Nat) (inner : Script)
  | subshell (line : Nat) (inner : Script) (redirections : List Redirection)
  | redirected (line : Nat) (inner : Script) (redirections : List Redirection)
  | choose (condition yes no : Script)
  | repeatWhile (expected : Bool) (condition body : Script)
  | loop (line : Nat) (name : Text) (items : List (List Piece)) (body : Script)
  | select (line : Nat) (subject : List Piece) (arms : List (List (List Piece) × Script))
  | define (line : Nat) (name : Text) (body : Script)

end

instance : Inhabited Script := ⟨.nothing⟩

abbrev Word := List Piece

namespace Piece

def bare? : Piece → Option Char
  | .char character false => some character
  | _ => none

end Piece

def Word.bareText? (word : Word) : Option Text := word.mapM Piece.bare?

def Word.quoted (text : Text) : Word := text.map fun character => .char character true

def isNameStart (character : Char) : Bool := character.isAlpha || character = '_'

def isNameChar (character : Char) : Bool := character.isAlphanum || character = '_'

def isName : Text → Bool
  | [] => false
  | first :: rest => isNameStart first && rest.all isNameChar

def Word.assignment? (word : Word) : Option (Text × Word) :=
  let name := (word.map fun piece => piece.bare?.filter isNameChar).takeWhile Option.isSome
  match word.drop name.length with
  | .char '=' false :: value =>
    let text := name.filterMap id
    if isName text then some (text, value) else none
  | _ => none

end PipDriver.Shell
