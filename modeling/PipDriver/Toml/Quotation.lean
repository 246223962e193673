import PipDriver.Text

/-!
Strings of a TOML document, each reader given what follows the opening quotes. A reader gives the value
and the text behind the closing quotes.
-/

namespace PipDriver.Toml

def isPrintable (character : Char) : Bool :=
  character = '\t' || (0x20 ≤ character.toNat && character.toNat ≠ 0x7F)

def isSpace (character : Char) : Bool := character = ' ' || character = '\t'

def skipSpaces (text : Text) : Text := text.dropWhile isSpace

def afterBreak? (text : Text) : Option Text :=
  match text with
  | '\n' :: rest => some rest
  | '\r' :: '\n' :: rest => some rest
  | _ => none

def hexDigit? (character : Char) : Option Nat :=
  if character.isDigit then some (character.toNat - '0'.toNat)
  else if 'a' ≤ character && character ≤ 'f' then some (character.toNat - 'a'.toNat + 10)
  else if 'A' ≤ character && character ≤ 'F' then some (character.toNat - 'A'.toNat + 10)
  else none

def scalar? (digits : Text) : Option Char :=
  (digits.mapM hexDigit?).bind fun values =>
    let number := values.foldl (fun sofar value => sofar * 16 + value) 0
    if number < 0xD800 || (0xDFFF < number && number < 0x110000) then some (Char.ofNat number)
    else none

def escaped? (character : Char) : Option Char :=
  match character with
  | 'b' => some '\x08'
  | 't' => some '\t'
  | 'n' => some '\n'
  | 'f' => some '\x0c'
  | 'r' => some '\r'
  | '"' => some '"'
  | '\\' => some '\\'
  | _ => none

def prepend (character : Option Char) (rest : Option (Text × Text)) : Option (Text × Text) :=
  match character, rest with
  | some character, some (value, after) => some (character :: value, after)
  | _, _ => none

def readBasic : Text → Option (Text × Text)
  | [] => none
  | '"' :: rest => some ([], rest)
  | '\\' :: 'u' :: a :: b :: c :: d :: rest => prepend (scalar? [a, b, c, d]) (readBasic rest)
  | '\\' :: 'U' :: a :: b :: c :: d :: e :: f :: g :: h :: rest =>
    prepend (scalar? [a, b, c, d, e, f, g, h]) (readBasic rest)
  | '\\' :: character :: rest => prepend (escaped? character) (readBasic rest)
  | character :: rest =>
    if isPrintable character then prepend (some character) (readBasic rest) else none

def readLiteral : Text → Option (Text × Text)
  | [] => none
  | character :: rest =>
    if character = '\'' then some ([], rest)
    else if isPrintable character then prepend (some character) (readLiteral rest)
    else none

def closeLong (quote : Char) (text : Text) : Option (Text × Text) :=
  let extra := text.takeWhile (· = quote)
  if extra.length ≤ 2 then some (extra, text.drop extra.length) else none

def endsLine (text : Text) : Bool := (afterBreak? (skipSpaces text)).isSome

def readLongBasic (skipping : Bool) : Text → Option (Text × Text)
  | [] => none
  | '"' :: '"' :: '"' :: rest => closeLong '"' rest
  | '\r' :: '\n' :: rest =>
    if skipping then readLongBasic true rest else prepend (some '\n') (readLongBasic false rest)
  | '\n' :: rest =>
    if skipping then readLongBasic true rest else prepend (some '\n') (readLongBasic false rest)
  | '\\' :: 'u' :: a :: b :: c :: d :: rest =>
    prepend (scalar? [a, b, c, d]) (readLongBasic false rest)
  | '\\' :: 'U' :: a :: b :: c :: d :: e :: f :: g :: h :: rest =>
    prepend (scalar? [a, b, c, d, e, f, g, h]) (readLongBasic false rest)
  | '\\' :: character :: rest =>
    match escaped? character with
    | some plain => prepend (some plain) (readLongBasic false rest)
    | none => if endsLine (character :: rest) then readLongBasic true (character :: rest) else none
  | character :: rest =>
    if skipping && isSpace character then readLongBasic true rest
    else if isPrintable character then prepend (some character) (readLongBasic false rest)
    else none

def readLongLiteral : Text → Option (Text × Text)
  | [] => none
  | '\'' :: '\'' :: '\'' :: rest => closeLong '\'' rest
  | '\r' :: '\n' :: rest => prepend (some '\n') (readLongLiteral rest)
  | '\n' :: rest => prepend (some '\n') (readLongLiteral rest)
  | character :: rest =>
    if isPrintable character then prepend (some character) (readLongLiteral rest) else none

def dropBreak (text : Text) : Text := (afterBreak? text).getD text

def readString (text : Text) : Option (Text × Text) :=
  match text with
  | '"' :: '"' :: '"' :: rest => readLongBasic false (dropBreak rest)
  | '"' :: rest => readBasic rest
  | '\'' :: '\'' :: '\'' :: rest => readLongLiteral (dropBreak rest)
  | '\'' :: rest => readLiteral rest
  | _ => none

def readQuotedKey (text : Text) : Option (Text × Text) :=
  match text with
  | '"' :: rest => readBasic rest
  | '\'' :: rest => readLiteral rest
  | _ => none

end PipDriver.Toml
