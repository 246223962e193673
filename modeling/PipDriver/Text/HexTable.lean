import PipDriver.Text

/-!
Tables written as text: entries between blanks, and in each entry hexadecimal numbers between colons.
-/

namespace PipDriver.Text

def hexDigit (character : Char) : Nat :=
  if character.isDigit then character.toNat - '0'.toNat else character.toNat - 'A'.toNat + 10

def hexNumber (digits : Text) : Nat := digits.foldl (fun number digit => 16 * number + hexDigit digit) 0

def hexEntries (lines : List String) : List (List Nat) :=
  lines.flatMap fun line => (fields ' ' line.toList).map fun entry => (fields ':' entry).map hexNumber

end PipDriver.Text
