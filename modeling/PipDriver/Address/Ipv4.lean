import PipDriver.Text

/-!
Host names that are numbers. A name whose last part is a number must be an address of at most four parts,
each in decimal, octal after a leading zero or hexadecimal after 0x.
-/

namespace PipDriver.Address

def digitValue? (character : Char) : Option Nat :=
  if '0' ≤ character && character ≤ '9' then some (character.toNat - '0'.toNat)
  else if 'a' ≤ character && character ≤ 'f' then some (character.toNat - 'a'.toNat + 10)
  else if 'A' ≤ character && character ≤ 'F' then some (character.toNat - 'A'.toNat + 10)
  else none

def isDigitIn (base : Nat) (character : Char) : Bool :=
  match digitValue? character with
  | some value => value < base
  | none => false

def numeral (base : Nat) (digits : Text) : Nat :=
  digits.foldl (fun value digit => value * base + (digitValue? digit).getD 0) 0

def partNumber? (part : Text) : Option Nat :=
  let read (base : Nat) (digits : Text) : Option Nat :=
    if digits.all (isDigitIn base) then some (numeral base digits) else none
  match part with
  | [] => none
  | '0' :: 'x' :: digits => read 16 digits
  | '0' :: 'X' :: digits => read 16 digits
  | '0' :: digit :: digits => read 8 (digit :: digits)
  | _ => read 10 part

def nameParts (name : Text) : List Text :=
  let parts := Text.fields '.' name
  if parts.getLast? = some [] then parts.dropLast else parts

def endsInNumber (name : Text) : Bool :=
  match (nameParts name).getLast? with
  | none => false
  | some last => (last ≠ [] && last.all Char.isDigit) || (partNumber? last).isSome

def isIpv4 (name : Text) : Bool :=
  let parts := nameParts name
  if 4 < parts.length then false
  else match parts.mapM partNumber? with
    | none => false
    | some numbers =>
      match numbers.getLast? with
      | none => false
      | some last => numbers.dropLast.all (· ≤ 255) && last < 1 <<< (8 * (5 - numbers.length))

end PipDriver.Address
