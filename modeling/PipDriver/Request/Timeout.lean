import PipDriver.Text.Blank

/-!
Time limits: whole numbers in base ten that fit into sixty-four bits with a sign.
-/

namespace PipDriver.Timeout

def digits? (text : Text) : Option Nat :=
  if text ≠ [] && text.all Char.isDigit then
    some (text.foldl (fun value digit => value * 10 + (digit.toNat - '0'.toNat)) 0)
  else none

def lowest : Int := -0x8000000000000000

def highest : Int := 0x7FFFFFFFFFFFFFFF

def inRange (number : Int) : Bool := lowest ≤ number && number ≤ highest

def number? (text : Text) : Option Int :=
  let signed := match text with
    | '-' :: rest => (digits? rest).map fun magnitude => -(magnitude : Int)
    | '+' :: rest => (digits? rest).map Int.ofNat
    | _ => (digits? text).map Int.ofNat
  signed.filter inRange

def accepted? (text : Text) : Option Text :=
  if (number? text.trim).isSome then some text.trim else none

end PipDriver.Timeout
