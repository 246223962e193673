import PipDriver.Text.CombiningTable
import PipDriver.Text.HexTable

/-!
Composed text: a letter and its marks become one character wherever there is one for both, after the marks
have been put into the order of their classes. Text that holds characters without a composition of their own
stays as it is in that place.
-/

namespace PipDriver.Text

def combiningClass (character : Char) : Nat :=
  match combiningRuns.find? fun (first, last, _) =>
      first ≤ character.toNat && character.toNat ≤ last with
  | some (_, _, number) => number
  | none => 0

def compositionList : List (Char × Char × Char) :=
  (hexEntries compositions).filterMap fun
    | [letter, mark, both] => some (Char.ofNat letter, Char.ofNat mark, Char.ofNat both)
    | _ => none

namespace Syllable

def start : Nat := 0xAC00

def firstStart : Nat := 0x1100

def vowelStart : Nat := 0x1161

def lastStart : Nat := 0x11A7

def firsts : Nat := 19

def vowels : Nat := 21

def lasts : Nat := 28

def isSyllable (code : Nat) : Bool := start ≤ code && code < start + firsts * vowels * lasts

def parts (code : Nat) : Text :=
  let number := code - start
  let last := number % lasts
  [Char.ofNat (firstStart + number / lasts / vowels), Char.ofNat (vowelStart + number / lasts % vowels)] ++
    if last = 0 then [] else [Char.ofNat (lastStart + last)]

def compose? (before after : Nat) : Option Char :=
  if firstStart ≤ before && before < firstStart + firsts && vowelStart ≤ after &&
      after < vowelStart + vowels then
    some (Char.ofNat (start + ((before - firstStart) * vowels + (after - vowelStart)) * lasts))
  else if isSyllable before && (before - start) % lasts = 0 && lastStart < after &&
      after < lastStart + lasts then
    some (Char.ofNat (before + (after - lastStart)))
  else none

end Syllable

def compose? (letter mark : Char) : Option Char :=
  match Syllable.compose? letter.toNat mark.toNat with
  | some syllable => some syllable
  | none =>
    match compositionList.find? fun (first, second, _) => first = letter && second = mark with
    | some (_, _, both) => some both
    | none => none

def takeApart (rounds : Nat) (character : Char) : Text :=
  if Syllable.isSyllable character.toNat then Syllable.parts character.toNat
  else match rounds, compositionList.find? fun (_, _, both) => both = character with
    | rounds + 1, some (letter, mark, _) => takeApart rounds letter ++ [mark]
    | _, _ => [character]

def placeMark (character : Char) : Text → Text
  | [] => [character]
  | last :: others =>
    if combiningClass character ≠ 0 && combiningClass character < combiningClass last then
      last :: placeMark character others
    else character :: last :: others

def inOrder (text : Text) : Text :=
  (text.foldl (fun placed character => placeMark character placed) []).reverse

def composeAfter (letter : Char) (apart : Text) : Text → Text
  | [] => letter :: apart.reverse
  | character :: rest =>
    let free := match apart with
      | [] => true
      | last :: _ => combiningClass last < combiningClass character
    match if free then compose? letter character else none with
    | some both => composeAfter both apart rest
    | none =>
      if combiningClass character = 0 then letter :: apart.reverse ++ composeAfter character [] rest
      else composeAfter letter (character :: apart) rest

def recompose (text : Text) : Text :=
  let marks := text.takeWhile fun character => combiningClass character ≠ 0
  match text.drop marks.length with
  | [] => marks
  | letter :: rest => marks ++ composeAfter letter [] rest

def firstMark : Nat := 0x300

def composed (text : Text) : Text :=
  if text.all fun character => character.toNat < firstMark then text
  else recompose (inOrder (text.flatMap (takeApart 4)))

end PipDriver.Text
