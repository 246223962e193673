import PipDriver.Address.HostName
import PipDriver.Address.Ipv6
import PipDriver.Text.Utf8

/-!
The host of an address: an address in brackets, a numeric address or a name.
-/

namespace PipDriver.Address

inductive Host
  | ipv6 (text : Text)
  | ipv4 (text : Text)
  | domain (name : Text)
deriving DecidableEq, Repr

def percentDecode : List UInt8 → List UInt8
  | [] => []
  | 0x25 :: high :: low :: rest =>
    let highDigit := Char.ofNat high.toNat
    let lowDigit := Char.ofNat low.toNat
    if isDigitIn 16 highDigit && isDigitIn 16 lowDigit then
      (numeral 16 [highDigit, lowDigit]).toUInt8 :: percentDecode rest
    else 0x25 :: percentDecode (high :: low :: rest)
  | byte :: rest => byte :: percentDecode rest

def Host.parse? (text : Text) : Option Host :=
  match text with
  | '[' :: inner =>
    if inner.getLast? = some ']' && isIpv6 inner.dropLast then some (.ipv6 inner.dropLast) else none
  | _ =>
    match Text.ofUtf8? ⟨(percentDecode (Text.utf8 text).toList).toArray⟩ with
    | none => none
    | some decoded =>
      match asciiName? decoded with
      | none => none
      | some [] => none
      | some name =>
        if endsInNumber name then (if isIpv4 name then some (.ipv4 name) else none)
        else some (.domain name)

end PipDriver.Address
