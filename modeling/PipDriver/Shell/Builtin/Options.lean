import PipDriver.Process.Escape
import PipDriver.Shell.State

/-!
How the commands of a shell read their arguments.
-/

namespace PipDriver.Shell

structure Letters where
  plain : Text
  valued : Text := []

namespace Letters

def cluster (letters : Letters) (rest : List Text) : Text →
    Action (List (Char × Text) × List Text)
  | [] => return ([], rest)
  | letter :: more => do
    if letter ∈ letters.valued then
      match more, rest with
      | [], value :: others => return ([(letter, value)], others)
      | [], [] => Action.fail ("No arg for -" ++ letter :: " option")
      | _, _ => return ([(letter, more)], rest)
    else if letter ∈ letters.plain then
      let (options, others) ← cluster letters rest more
      return ((letter, []) :: options, others)
    else Action.fail ("Illegal option -" ++ [letter])

def read (letters : Letters) (fuel : Nat) (words : List Text) :
    Action (List (Char × Text) × List Text) := do
  match fuel, words with
  | 0, _ => return ([], words)
  | fuel + 1, ('-' :: first :: others) :: rest =>
    if first :: others = ['-'] then return ([], rest)
    else
      let (options, rest) ← letters.cluster rest (first :: others)
      let (more, rest) ← letters.read fuel rest
      return (options ++ more, rest)
  | _, words => return ([], words)

end Letters

def readOptions (plain valued : Text) (words : List Text) : Action (List (Char × Text) × List Text) :=
  Letters.read { plain, valued } (words.length + 1) words

def plainNumber (text : Text) : Action Nat := do
  let value := Escape.digitsValue 10 text
  if text ≠ [] && text.all Char.isDigit && value < 0x80000000 then return value
  else Action.fail ("Illegal number: " ++ text)

def singleQuoted (text : Text) : Text :=
  match Text.splitOnce ['\''] text with
  | none => '\'' :: text ++ ['\'']
  | some _ =>
    let isQuote (character : Char) : Bool := character = '\''
    let rec stretches (fuel : Nat) (text : Text) : Text :=
      match fuel with
      | 0 => []
      | fuel + 1 =>
        let plain := text.takeWhile fun character => !isQuote character
        let rest := text.drop plain.length
        let quotes := rest.takeWhile isQuote
        let front := '\'' :: plain ++ ['\'']
        if quotes = [] then front
        else
          let after := rest.drop quotes.length
          front ++ '"' :: quotes ++ ['"'] ++ (if after = [] then [] else stretches fuel after)
    stretches (text.length + 1) text

end PipDriver.Shell
