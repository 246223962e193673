import PipDriver.Address.Ipv4

/-!
Addresses of eight pieces: up to four hexadecimal digits between colons, one run of zero pieces left out
as two colons, and the last two pieces perhaps as four decimal numbers.
-/

namespace PipDriver.Address

def isByteNumber (part : Text) : Bool :=
  part ≠ [] && part.all Char.isDigit && (part.head? ≠ some '0' || part.length = 1) &&
    numeral 10 part ≤ 255

def isDottedQuad (text : Text) : Bool :=
  let parts := Text.fields '.' text
  parts.length = 4 && parts.all isByteNumber

def ipv6Pieces (count : Nat) (shortened : Bool) (text : Text) : Bool :=
  match text with
  | [] => count = 8 || shortened
  | ':' :: rest =>
    if count = 8 || shortened then false else ipv6Pieces (count + 1) true rest
  | first :: others =>
    if count = 8 then false
    else if isDigitIn 16 first then
      let more := (others.take 3).takeWhile (isDigitIn 16)
      match remaining : others.drop more.length with
      | [] => count + 1 = 8 || shortened
      | '.' :: _ => count ≤ 6 && isDottedQuad (first :: others) && (count + 2 = 8 || shortened)
      | ':' :: rest => rest ≠ [] && ipv6Pieces (count + 1) shortened rest
      | _ => false
    else false
termination_by text.length
decreasing_by
  · simp
  · have shorter : (others.drop more.length).length ≤ others.length := by simp
    rw [remaining] at shorter
    simp only [List.length_cons] at shorter ⊢
    omega

def isIpv6 (text : Text) : Bool :=
  match text with
  | ':' :: ':' :: rest => ipv6Pieces 1 true rest
  | ':' :: _ => false
  | _ => ipv6Pieces 0 false text

end PipDriver.Address
