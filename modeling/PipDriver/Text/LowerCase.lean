import PipDriver.Text
import PipDriver.Text.CaseTable

/-!
Lower case over all of Unicode. Every letter has one lower-case form, a few of them longer, and the
capital sigma alone depends on its neighbours: it takes the final form at the end of a word.
-/

namespace PipDriver.Text

def LowerRun.covers (run : LowerRun) (code : Nat) : Bool :=
  run.first ≤ code && code ≤ run.last && (code - run.first) % run.step == 0

def lowerChar (character : Char) : Text :=
  if character = 'İ' then ['i', '\u0307']
  else match lowerRuns.find? (·.covers character.toNat) with
    | some run => [Char.ofNat (character.toNat + run.shift).toNat]
    | none => [character]

def casedNext (neighbours : Text) : Bool :=
  match neighbours.dropWhile caseIgnorableRanges.contains with
  | [] => false
  | character :: _ => casedRanges.contains character

def sigmaEndsWord (before after : Text) : Bool := casedNext before && !casedNext after

def lowerAfter (before : Text) : Text → Text
  | [] => []
  | character :: rest =>
    let lowered :=
      if character = 'Σ' then (if sigmaEndsWord before rest then ['ς'] else ['σ'])
      else lowerChar character
    lowered ++ lowerAfter (character :: before) rest

def lower (text : Text) : Text := lowerAfter [] text

end PipDriver.Text
