import PipDriver.Text.Bytewise

/-!
Escapes behind a backslash, as programs that print texts read them, and the bytes they stand for.
-/

namespace PipDriver

structure EscapeRules where
  /-- Whether a leading zero comes on top of three octal digits. -/
  extraZero : Bool := false
  /-- Whether bytes may be given by hexadecimal digits. -/
  hexadecimal : Bool := false
  /-- What is printed for characters given by their numbers, if they may be. -/
  numbered : Option (Char → Text) := none
  /-- Whether a quote may be escaped. -/
  quote : Bool := false
  /-- Whether printing can be ended. -/
  stops : Bool := true

namespace Escape

structure Printed where
  text : Text
  stopped : Bool := false

def Printed.after (text : Text) (rest : Printed) : Printed :=
  { rest with text := text ++ rest.text }

def isOctal (character : Char) : Bool := '0' ≤ character && character ≤ '7'

def isHexadecimal (character : Char) : Bool :=
  character.isDigit || character ∈ "abcdefABCDEF".toList

def digitValue (character : Char) : Nat :=
  if character.isDigit then character.toNat - '0'.toNat
  else character.toLower.toNat - 'a'.toNat + 10

def digitsValue (base : Nat) (digits : Text) : Nat :=
  digits.foldl (fun value digit => value * base + digitValue digit) 0

def simple? : Char → Option Char
  | '\\' => some '\\'
  | 'a' => some '\x07'
  | 'b' => some '\x08'
  | 'e' => some '\x1b'
  | 'f' => some '\x0c'
  | 'n' => some '\n'
  | 'r' => some '\r'
  | 't' => some '\t'
  | 'v' => some '\x0b'
  | _ => none

def byteOf (value : Nat) : Char := Text.byteChar value.toUInt8

def read? (rules : EscapeRules) (sign : Char) (rest : Text) : Option (Text × Nat) :=
  match simple? sign with
  | some character => some ([character], 0)
  | none =>
    let hexadecimal (limit : Nat) : Text := (rest.take limit).takeWhile isHexadecimal
    if isOctal sign then
      let limit := if rules.extraZero && sign = '0' then 3 else 2
      let digits := (rest.take limit).takeWhile isOctal
      some ([byteOf (digitsValue 8 (sign :: digits))], digits.length)
    else if rules.quote && sign = '"' then some (['"'], 0)
    else if sign = 'x' && rules.hexadecimal then
      let digits := hexadecimal 2
      if digits = [] then none else some ([byteOf (digitsValue 16 digits)], digits.length)
    else match rules.numbered with
      | none => none
      | some shown =>
        let digits := hexadecimal (if sign = 'u' then 4 else if sign = 'U' then 8 else 0)
        if digits = [] then none
        else some (shown (Char.ofNat (digitsValue 16 digits)), digits.length)

def interpret (rules : EscapeRules) : Text → Printed
  | [] => { text := [] }
  | '\\' :: sign :: rest =>
    if rules.stops && sign = 'c' then { text := [], stopped := true }
    else match read? rules sign rest with
      | some (text, taken) => (interpret rules (rest.drop taken)).after text
      | none => (interpret rules rest).after ['\\', sign]
  | character :: rest => (interpret rules rest).after [character]
termination_by text => text.length
decreasing_by
  all_goals
    simp only [List.length_cons, List.length_drop]
    omega

end Escape

end PipDriver
