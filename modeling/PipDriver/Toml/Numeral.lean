import PipDriver.Decimal.Binary64
import PipDriver.Toml.Node

/-!
Numbers, dates and times of a TOML document.
-/

namespace PipDriver.Toml

def readDigits (isDigit : Char → Bool) : Text → Option (Text × Text)
  | [] => none
  | [first] => if isDigit first then some ([first], []) else none
  | first :: '_' :: rest =>
    if isDigit first then
      (readDigits isDigit rest).map fun (digits, after) => (first :: digits, after)
    else none
  | first :: next :: rest =>
    if !isDigit first then none
    else if isDigit next then
      (readDigits isDigit (next :: rest)).map fun (digits, after) => (first :: digits, after)
    else some ([first], next :: rest)

def digitNumber (character : Char) : Nat :=
  if character.isDigit then character.toNat - '0'.toNat
  else if 'a' ≤ character then character.toNat - 'a'.toNat + 10
  else character.toNat - 'A'.toNat + 10

def isHexDigit (character : Char) : Bool :=
  character.isDigit || ('a' ≤ character && character ≤ 'f') || ('A' ≤ character && character ≤ 'F')

def isOctalDigit (character : Char) : Bool := '0' ≤ character && character ≤ '7'

def isBinaryDigit (character : Char) : Bool := character = '0' || character = '1'

def valueOf (base : Nat) (digits : Text) : Nat :=
  digits.foldl (fun sofar digit => sofar * base + digitNumber digit) 0

def boundedInteger (negative : Bool) (magnitude : Nat) : Option Node :=
  if negative then
    if magnitude ≤ 0x8000000000000000 then some (.integer (-(magnitude : Int))) else none
  else if magnitude < 0x8000000000000000 then some (.integer magnitude) else none

def readBased (base : Nat) (isDigit : Char → Bool) (text : Text) : Option (Node × Text) :=
  match readDigits isDigit text with
  | none => none
  | some (digits, rest) => (boundedInteger false (valueOf base digits)).map fun node => (node, rest)

def readWhole (text : Text) : Option (Text × Text) :=
  match text with
  | '0' :: rest => some (['0'], rest)
  | _ => readDigits Char.isDigit text

def readFraction (text : Text) : Option (Text × Text) :=
  match text with
  | '.' :: rest => readDigits Char.isDigit rest
  | _ => some ([], text)

def readSign (text : Text) : Bool × Text :=
  match text with
  | '-' :: rest => (true, rest)
  | '+' :: rest => (false, rest)
  | _ => (false, text)

def readPower (text : Text) : Option (Int × Text) :=
  match text with
  | [] => some (0, [])
  | letter :: rest =>
    if letter = 'e' || letter = 'E' then
      let (negative, digitsText) := readSign rest
      (readDigits Char.isDigit digitsText).map fun (digits, after) =>
        let size : Int := valueOf 10 digits
        (if negative then -size else size, after)
    else some (0, text)

def floatNode (negative : Bool) (coefficient : Nat) (power : Int) : Option Node :=
  match Decimal.Binary64.ofDecimal? coefficient power with
  | some number => some (.float (if negative then '-' :: number.text else number.text))
  | none => if negative then some (.float "-inf") else none

def readDecimal (text : Text) : Option (Node × Text) :=
  let (negative, unsigned) := readSign text
  match readWhole unsigned with
  | none => none
  | some (whole, afterWhole) =>
    match readFraction afterWhole with
    | none => none
    | some (fraction, afterFraction) =>
      match readPower afterFraction with
      | none => none
      | some (power, rest) =>
        if rest.length = afterWhole.length then
          (boundedInteger negative (valueOf 10 whole)).map fun node => (node, rest)
        else
          (floatNode negative (valueOf 10 (whole ++ fraction)) (power - fraction.length)).map
            fun node => (node, rest)

def readNamed (text : Text) : Option (Node × Text) :=
  match text with
  | 'i' :: 'n' :: 'f' :: rest => some (.float "inf", rest)
  | '+' :: 'i' :: 'n' :: 'f' :: rest => some (.float "inf", rest)
  | '-' :: 'i' :: 'n' :: 'f' :: rest => some (.float "-inf", rest)
  | 'n' :: 'a' :: 'n' :: rest => some (.float "NaN", rest)
  | '+' :: 'n' :: 'a' :: 'n' :: rest => some (.float "NaN", rest)
  | '-' :: 'n' :: 'a' :: 'n' :: rest => some (.float "NaN", rest)
  | _ => none

def readField (count low high : Nat) (text : Text) : Option (Nat × Text) :=
  let digits := text.take count
  if digits.length = count && digits.all Char.isDigit then
    let value := valueOf 10 digits
    if low ≤ value && value ≤ high then some (value, text.drop count) else none
  else none

def expect (character : Char) (text : Text) : Option Text :=
  match text with
  | first :: rest => if first = character then some rest else none
  | [] => none

def isLeapYear (year : Nat) : Bool := year % 4 = 0 && (year % 100 ≠ 0 || year % 400 = 0)

def daysIn (year month : Nat) : Nat :=
  if month = 2 then (if isLeapYear year then 29 else 28)
  else if month = 4 || month = 6 || month = 9 || month = 11 then 30
  else 31

def afterDate? (text : Text) : Option Text :=
  match readField 4 0 9999 text with
  | none => none
  | some (year, rest) =>
    match (expect '-' rest).bind (readField 2 1 12) with
    | none => none
    | some (month, rest) =>
      ((expect '-' rest).bind (readField 2 1 (daysIn year month))).map Prod.snd

def dropSecondFraction (text : Text) : Text :=
  match text with
  | '.' :: digit :: rest => if digit.isDigit then rest.dropWhile Char.isDigit else text
  | _ => text

def afterTime? (text : Text) : Option Text :=
  match readField 2 0 23 text with
  | none => none
  | some (_, rest) =>
    match (expect ':' rest).bind (readField 2 0 59) with
    | none => none
    | some (_, rest) =>
      ((expect ':' rest).bind (readField 2 0 60)).map fun (_, rest) => dropSecondFraction rest

def dropOffset (text : Text) : Text :=
  match text with
  | 'Z' :: rest => rest
  | 'z' :: rest => rest
  | sign :: rest =>
    if sign = '+' || sign = '-' then
      match readField 2 0 23 rest with
      | none => text
      | some (_, afterHour) =>
        match (expect ':' afterHour).bind (readField 2 0 59) with
        | some (_, after) => after
        | none => text
    else text
  | [] => []

def afterMoment? (text : Text) : Option Text :=
  match afterDate? text with
  | none => afterTime? text
  | some rest =>
    match rest with
    | [] => some []
    | between :: timeText =>
      if between = 'T' || between = 't' || between = ' ' then
        match afterTime? timeText with
        | some after => some (dropOffset after)
        | none => some rest
      else some rest

def readNumeral (text : Text) : Option (Node × Text) :=
  match afterMoment? text with
  | some rest => some (.moment, rest)
  | none =>
    match readNamed text with
    | some named => some named
    | none =>
      match text with
      | '0' :: 'x' :: rest => readBased 16 isHexDigit rest
      | '0' :: 'o' :: rest => readBased 8 isOctalDigit rest
      | '0' :: 'b' :: rest => readBased 2 isBinaryDigit rest
      | _ => readDecimal text

end PipDriver.Toml
