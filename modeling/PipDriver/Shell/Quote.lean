import PipDriver.Text

/-!
Writing a word for a POSIX shell.
-/

namespace PipDriver.Shell

def isNeutral (character : Char) : Bool :=
  character.isAlphanum || character ∈ "_-./=:,+@%".toList

def quoteChar (character : Char) : Text :=
  if character = '\'' then "'\\''" else [character]

def quote (word : Text) : Text :=
  if word ≠ [] && word.all isNeutral then word
  else '\'' :: word.flatMap quoteChar ++ ['\'']

def line (words : List Text) : Text := [' '].intercalate (words.map quote)

end PipDriver.Shell
