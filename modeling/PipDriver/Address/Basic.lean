import PipDriver.Address.Host

/-!
Addresses of package indexes: a scheme, a host and perhaps a port. Reading is lenient about blanks at the
ends, line breaks anywhere and the number and direction of slashes.
-/

namespace PipDriver

structure Address where
  scheme : Text
  host : Address.Host
  port : Option Nat
deriving DecidableEq, Repr

namespace Address

def schemes : List Text := ["http", "https", "ftp"]

def isControlOrSpace (character : Char) : Bool := character.toNat ≤ 0x20

def isBreak (character : Char) : Bool :=
  character = '\t' || character = '\n' || character = '\r'

def isSlash (character : Char) : Bool := character = '/' || character = '\\'

def cleaned (text : Text) : Text :=
  let inner := ((text.dropWhile isControlOrSpace).reverse.dropWhile isControlOrSpace).reverse
  inner.filter fun character => !isBreak character

def isSchemeChar (character : Char) : Bool :=
  character.isAlphanum || character = '+' || character = '-' || character = '.'

def splitScheme? (text : Text) : Option (Text × Text) :=
  let scheme := text.takeWhile isSchemeChar
  match scheme, text.drop scheme.length with
  | first :: _, ':' :: rest => if first.isAlpha then some (Text.asciiLower scheme, rest) else none
  | _, _ => none

def authority (text : Text) : Text :=
  (text.dropWhile isSlash).takeWhile fun character =>
    !isSlash character && character ≠ '?' && character ≠ '#'

def withoutUser (authority : Text) : Text :=
  (authority.reverse.takeWhile (· ≠ '@')).reverse

def splitHost (inside : Bool) : Text → Text × Text
  | [] => ([], [])
  | character :: rest =>
    if character = ':' && !inside then ([], character :: rest)
    else
      let next := if character = '[' then true else if character = ']' then false else inside
      let (host, port) := splitHost next rest
      (character :: host, port)

def port? (text : Text) : Option (Option Nat) :=
  match text with
  | [] => some none
  | ':' :: [] => some none
  | ':' :: digits =>
    if digits.all Char.isDigit && numeral 10 digits ≤ 65535 then some (some (numeral 10 digits))
    else none
  | _ => none

def parse? (text : Text) : Option Address :=
  match splitScheme? (cleaned text) with
  | none => none
  | some (scheme, rest) =>
    if scheme ∈ schemes then
      let (hostText, portText) := splitHost false (withoutUser (authority rest))
      if hostText = [] then none
      else match Host.parse? hostText, port? portText with
        | some host, some port => some ⟨scheme, host, port⟩
        | _, _ => none
    else none

end Address

end PipDriver
