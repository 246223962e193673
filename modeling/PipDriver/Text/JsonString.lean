import PipDriver.Text

/-!
Text as a JSON string: quotes, backslashes and controls are escaped, all else stands for itself.
-/

namespace PipDriver.Text

def jsonControl (character : Char) : Text :=
  let digits := Nat.toDigits 16 character.toNat
  '\\' :: 'u' :: List.replicate (4 - digits.length) '0' ++ digits

def jsonChar (character : Char) : Text :=
  match character with
  | '"' => "\\\""
  | '\\' => "\\\\"
  | '\n' => "\\n"
  | '\r' => "\\r"
  | '\t' => "\\t"
  | '\x08' => "\\b"
  | '\x0c' => "\\f"
  | _ => if character.toNat < 0x20 then jsonControl character else [character]

def jsonString (text : Text) : Text := '"' :: text.flatMap jsonChar ++ ['"']

end PipDriver.Text
