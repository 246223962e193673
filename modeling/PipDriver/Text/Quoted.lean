import PipDriver.Text.HiddenTable
import PipDriver.Text.Utf8

/-!
Text between double quotes for a message: a quote, a backslash and the usual controls are escaped with a
backslash, and a character that would not show is written by its number.
-/

namespace PipDriver.Text

def quotedChar (character : Char) : Text :=
  match character with
  | '"' => ['\\', '"']
  | '\\' => ['\\', '\\']
  | '\n' => ['\\', 'n']
  | '\r' => ['\\', 'r']
  | '\t' => ['\\', 't']
  | '\x00' => ['\\', '0']
  | _ =>
    if hiddenRanges.contains character then
      ['\\', 'u', '\x7b'] ++ Nat.toDigits 16 character.toNat ++ ['\x7d']
    else [character]

def quoted (text : Text) : Text := '"' :: text.flatMap quotedChar ++ ['"']

end PipDriver.Text

namespace PipDriver.Bytes

/-- A byte that belongs to no character, by its number. -/
def quotedByte (byte : UInt8) : Text :=
  let digits := (Nat.toDigits 16 byte.toNat).map Char.toUpper
  ['\\', 'x'] ++ List.replicate (2 - digits.length) '0' ++ digits

def quotedStretch : Stretch → Text
  | .sign character => if character = '\'' then ['\\', '\''] else Text.quotedChar character
  | .broken bytes => bytes.flatMap quotedByte

def quotedPath (bytes : Bytes) : Text := '"' :: (stretches 0 bytes).flatMap quotedStretch ++ ['"']

end PipDriver.Bytes
