import PipDriver.Toml.Numeral
import PipDriver.Toml.Quotation

/-!
Reading a TOML document. The whole text must be well formed, or there is no document at all.
-/

namespace PipDriver.Toml

def deepest : Nat := 79

def isBareKeyChar (character : Char) : Bool :=
  character.isAlphanum || character = '_' || character = '-'

def readKeyPart (text : Text) : Option (Text × Text) :=
  match readQuotedKey text with
  | some quoted => some quoted
  | none =>
    let bare := text.takeWhile isBareKeyChar
    if bare = [] then none else some (bare, text.drop bare.length)

def readKey (fuel : Nat) (text : Text) : Option (List Text × Text) :=
  match fuel with
  | 0 => none
  | fuel + 1 =>
    match readKeyPart (skipSpaces text) with
    | none => none
    | some (part, rest) =>
      match skipSpaces rest with
      | '.' :: more => (readKey fuel more).map fun (parts, after) => (part :: parts, after)
      | after => some ([part], after)

def splitLast? (parts : List Text) : Option (List Text × Text) :=
  parts.getLast?.map fun last => (parts.dropLast, last)

def skipComment (text : Text) : Text :=
  match text with
  | '#' :: rest => rest.dropWhile isPrintable
  | _ => text

def skipFiller (fuel : Nat) (text : Text) : Text :=
  match fuel with
  | 0 => text
  | fuel + 1 =>
    let ahead := skipComment (skipSpaces text)
    match afterBreak? ahead with
    | some rest => skipFiller fuel rest
    | none => if skipSpaces text = ahead then ahead else text

def afterLine? (text : Text) : Option Text :=
  match skipComment (skipSpaces text) with
  | [] => some []
  | rest => afterBreak? rest

mutual

def readValue (fuel depth : Nat) (text : Text) : Option (Node × Text) :=
  match fuel with
  | 0 => none
  | fuel + 1 =>
    match text with
    | '"' :: _ => (readString text).map fun (value, rest) => (.text value, rest)
    | '\'' :: _ => (readString text).map fun (value, rest) => (.text value, rest)
    | 't' :: 'r' :: 'u' :: 'e' :: rest => some (.truth true, rest)
    | 'f' :: 'a' :: 'l' :: 's' :: 'e' :: rest => some (.truth false, rest)
    | '[' :: rest =>
      if depth = 0 then none
      else (readElements fuel (depth - 1) (skipFiller rest.length rest)).map fun (elements, after) =>
        (.array elements, after)
    | '\x7b' :: rest =>
      if depth = 0 then none
      else match skipSpaces rest with
        | '\x7d' :: after => some (.table .inline [], after)
        | inner =>
          (readPairs fuel (depth - 1) [] inner).map fun (entries, after) =>
            (.table .inline entries, after)
    | _ => readNumeral text

def readElements (fuel depth : Nat) (text : Text) : Option (List Node × Text) :=
  match fuel with
  | 0 => none
  | fuel + 1 =>
    match text with
    | ']' :: rest => some ([], rest)
    | _ =>
      match readValue fuel depth text with
      | none => none
      | some (node, rest) =>
        match skipFiller rest.length rest with
        | ']' :: after => some ([node], after)
        | ',' :: more =>
          (readElements fuel depth (skipFiller more.length more)).map fun (nodes, after) =>
            (node :: nodes, after)
        | _ => none

def readPairs (fuel depth : Nat) (entries : Entries) (text : Text) : Option (Entries × Text) :=
  match fuel with
  | 0 => none
  | fuel + 1 =>
    match readKey deepest text with
    | some (parts, '=' :: rest) =>
      match splitLast? parts, readValue fuel depth (skipSpaces rest) with
      | some (path, key), some (node, after) =>
        match entries.insertKey path key node with
        | none => none
        | some entries =>
          match skipSpaces after with
          | '\x7d' :: after => some (entries, after)
          | ',' :: more => readPairs fuel depth entries more
          | _ => none
      | _, _ => none
    | _ => none

end

def readPairLine (draft : Draft) (text : Text) : Option (Draft × Text) :=
  match readKey deepest text with
  | some (parts, '=' :: rest) =>
    match splitLast? parts, readValue (rest.length + 1) deepest (skipSpaces rest) with
    | some (path, key), some (node, after) =>
      match draft.addKey path key node, afterLine? after with
      | some draft, some next => some (draft, next)
      | _, _ => none
    | _, _ => none
  | _ => none

def readHeaderLine (draft : Draft) (text : Text) : Option (Draft × Text) :=
  match text with
  | '[' :: rest =>
    match readKey deepest rest with
    | some (parts, ']' :: ']' :: after) =>
      match (splitLast? parts).bind fun (path, key) => draft.startElement path key, afterLine? after with
      | some draft, some next => some (draft, next)
      | _, _ => none
    | _ => none
  | _ =>
    match readKey deepest text with
    | some (parts, ']' :: after) =>
      match (splitLast? parts).bind fun (path, key) => draft.startTable path key, afterLine? after with
      | some draft, some next => some (draft, next)
      | _, _ => none
    | _ => none

def readLines (fuel : Nat) (draft : Draft) (text : Text) : Option Draft :=
  match fuel with
  | 0 => none
  | fuel + 1 =>
    match skipSpaces text with
    | [] => some draft
    | '#' :: rest => (afterLine? ('#' :: rest)).bind (readLines fuel draft)
    | '[' :: rest => (readHeaderLine draft rest).bind fun (draft, next) => readLines fuel draft next
    | '\n' :: rest => readLines fuel draft rest
    | '\r' :: rest => (afterBreak? ('\r' :: rest)).bind (readLines fuel draft)
    | line => (readPairLine draft line).bind fun (draft, next) => readLines fuel draft next

def read? (text : Text) : Option Entries :=
  let body := match text with
    | '\ufeff' :: rest => rest
    | _ => text
  (readLines (body.length + 1) {} body).bind Draft.finish

end PipDriver.Toml
