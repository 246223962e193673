import PipDriver.Decimal.Binary64
import PipDriver.Process.Escape

/-!
Numbers in arguments: how they are read from the front of a text, and how they are written in given forms.
-/

namespace PipDriver.Figure

inductive Flaw
  | noNumber
  | partly
  | tooLarge
deriving DecidableEq, Repr

def isSpace (character : Char) : Bool := character ∈ " \t\n\x0b\x0c\x0d".toList

def splitSign (text : Text) : Bool × Text :=
  match text.dropWhile isSpace with
  | '-' :: rest => (true, rest)
  | '+' :: rest => (false, rest)
  | rest => (false, rest)

def flawOf (text rest : Text) (tooLarge : Bool) : Option Flaw :=
  if rest ≠ [] then some (if rest = text then .noNumber else .partly)
  else if tooLarge then some .tooLarge
  else none

def wholeDigits (text : Text) : Option (Nat × Text × Text) :=
  let split (base : Nat) (fits : Char → Bool) (text : Text) : Option (Nat × Text × Text) :=
    let digits := text.takeWhile fits
    if digits = [] then none else some (base, digits, text.drop digits.length)
  match text with
  | '0' :: letter :: rest =>
    if letter = 'x' || letter = 'X' then
      (split 16 Escape.isHexadecimal rest).orElse fun _ => some (8, ['0'], letter :: rest)
    else split 8 Escape.isOctal text
  | _ => split 10 Char.isDigit text

def readWhole (signed : Bool) (text : Text) : Int × Option Flaw :=
  match text with
  | '\'' :: rest => ((rest.headD '\x00').toNat, none)
  | '"' :: rest => ((rest.headD '\x00').toNat, none)
  | _ =>
    let (negative, rest) := splitSign text
    match wholeDigits rest with
    | none => (0, flawOf text text false)
    | some (base, digits, after) =>
      let value : Int := Escape.digitsValue base digits
      if signed then
        let least : Int := -0x8000000000000000
        let largest : Int := 0x7FFFFFFFFFFFFFFF
        let number := if negative then -value else value
        (max least (min largest number), flawOf text after (number < least || largest < number))
      else
        let largest : Int := 0xFFFFFFFFFFFFFFFF
        let number := if largest < value then largest else if negative then -value % 0x10000000000000000 else value
        (number, flawOf text after (largest < value))

inductive Real
  | finite (negative : Bool) (number divisor : Nat)
  | infinite (negative : Bool)
  | none (negative : Bool)
deriving DecidableEq, Repr

def pointed (base : Nat) (fits : Char → Bool) (text : Text) : Option (Nat × Nat × Text) :=
  let front := text.takeWhile fits
  let rest := text.drop front.length
  let (places, after) := match rest with
    | '.' :: more =>
      let digits := more.takeWhile fits
      if front = [] && digits = [] then ([], rest) else (digits, more.drop digits.length)
    | _ => ([], rest)
  if front = [] && places = [] then Option.none
  else some (Escape.digitsValue base (front ++ places), places.length, after)

def exponent (letter : Char) (text : Text) : Int × Text :=
  match text with
  | first :: rest =>
    if first.toLower = letter then
      let (negative, digits) := match rest with
        | '-' :: more => (true, more)
        | '+' :: more => (false, more)
        | more => (false, more)
      let figures := digits.takeWhile Char.isDigit
      if figures = [] then (0, text)
      else
        let value : Int := Escape.digitsValue 10 figures
        (if negative then -value else value, digits.drop figures.length)
    else (0, text)
  | [] => (0, [])

def ofBinary (negative : Bool) (number : Decimal.Binary64) : Real :=
  match number.exponent with
  | .ofNat up => .finite negative (number.mantissa <<< up) 1
  | .negSucc down => .finite negative number.mantissa (1 <<< (down + 1))

def afterWord? (word text : Text) : Option Text :=
  if word.isPrefixOf (text.map Char.toLower) then some (text.drop word.length) else Option.none

def readReal (text : Text) : Real × Option Flaw :=
  let (negative, rest) := splitSign text
  let hexadecimal := match rest with
    | '0' :: letter :: more => if letter = 'x' || letter = 'X' then some more else Option.none
    | _ => Option.none
  match hexadecimal.bind (pointed 16 Escape.isHexadecimal) with
  | some (digits, places, after) =>
    let (power, after) := exponent 'p' after
    let shift : Int := power - 4 * places
    let nearest := match shift with
      | .ofNat up => Decimal.Binary64.ofFraction? (digits <<< min up 2000) 1
      | .negSucc down => Decimal.Binary64.ofFraction? digits (1 <<< (min down 3000 + 1))
    match nearest with
    | some number => (ofBinary negative number, flawOf text after false)
    | Option.none => (.infinite negative, flawOf text after true)
  | Option.none =>
    match pointed 10 Char.isDigit rest with
    | some (digits, places, after) =>
      let (power, after) := exponent 'e' after
      match Decimal.Binary64.ofDecimal? digits (power - places) with
      | some number => (ofBinary negative number, flawOf text after false)
      | Option.none => (.infinite negative, flawOf text after true)
    | Option.none =>
      match (afterWord? "infinity" rest).orElse fun _ => afterWord? "inf" rest with
      | some after => (.infinite negative, flawOf text after false)
      | Option.none =>
        match afterWord? "nan" rest with
        | some after => (.none negative, flawOf text after false)
        | Option.none => (.finite false 0 1, flawOf text text false)

structure Form where
  left : Bool := false
  plus : Bool := false
  blank : Bool := false
  alternative : Bool := false
  zeros : Bool := false
  width : Nat := 0
  precision : Option Nat := Option.none

namespace Form

def fill (form : Form) (text : Text) : Text :=
  let missing := List.replicate (form.width - text.length) ' '
  if form.left then text ++ missing else missing ++ text

def assemble (form : Form) (zeros : Bool) (sign digits : Text) : Text :=
  if zeros && !form.left then
    sign ++ List.replicate (form.width - sign.length - digits.length) '0' ++ digits
  else form.fill (sign ++ digits)

def sign (form : Form) (negative : Bool) : Text :=
  if negative then ['-'] else if form.plus then ['+'] else if form.blank then [' '] else []

def precise (form : Form) (digits : Text) : Text :=
  match form.precision with
  | Option.none => digits
  | some 0 => if digits = ['0'] then [] else digits
  | some count => List.replicate (count - digits.length) '0' ++ digits

def signed (form : Form) (value : Int) : Text :=
  form.assemble (form.zeros && form.precision.isNone) (form.sign (value < 0))
    (form.precise (Text.ofNat value.natAbs))

def unsigned (form : Form) (base : Nat) (upper : Bool) (value : Nat) : Text :=
  let digits := Nat.toDigits base value
  let shown := form.precise (if upper then digits.map Char.toUpper else digits)
  let lead : Text :=
    if !form.alternative || value = 0 then []
    else if base = 16 then (if upper then ['0', 'X'] else ['0', 'x'])
    else []
  let digits := if form.alternative && base = 8 && shown.head? ≠ some '0' then '0' :: shown else shown
  form.assemble (form.zeros && form.precision.isNone) lead digits

def places (count value : Nat) (point : Bool) : Text :=
  let digits := Text.ofNat value
  let wide := List.replicate (count + 1 - digits.length) '0' ++ digits
  let front := wide.take (wide.length - count)
  if count = 0 then front ++ (if point then ['.'] else [])
  else front ++ '.' :: wide.drop (wide.length - count)

def scientific (count number divisor : Nat) : Int × Nat :=
  if number = 0 then (0, 0)
  else
    let size : Int := (Text.ofNat number).length - (Text.ofNat divisor).length
    let rounded (power : Int) : Nat :=
      match (count : Int) - power with
      | .ofNat up => Decimal.Binary64.roundDiv (number * Nat.pow 10 up) divisor
      | .negSucc down => Decimal.Binary64.roundDiv number (divisor * Nat.pow 10 (down + 1))
    let isBelow : Bool := match size with
      | .ofNat up => number < divisor * Nat.pow 10 up
      | .negSucc down => number * Nat.pow 10 (down + 1) < divisor
    let power := if isBelow then size - 1 else size
    let digits := rounded power
    if Nat.pow 10 (count + 1) ≤ digits then (power + 1, rounded (power + 1)) else (power, digits)

def exponentText (power : Int) : Text :=
  let digits := Text.ofNat power.natAbs
  (if power < 0 then ['-'] else ['+']) ++ List.replicate (2 - digits.length) '0' ++ digits

def withoutZeros (text : Text) : Text :=
  if '.' ∈ text then
    let kept := (text.reverse.dropWhile (· = '0')).reverse
    if kept.getLast? = some '.' then kept.dropLast else kept
  else text

def fixedText (form : Form) (count number divisor : Nat) : Text :=
  places count (Decimal.Binary64.roundDiv (number * Nat.pow 10 count) divisor) form.alternative

def scientificText (form : Form) (count number divisor : Nat) : Text × Text :=
  let (power, digits) := scientific count number divisor
  (places count digits form.alternative, 'e' :: exponentText power)

def generalText (form : Form) (number divisor : Nat) : Text :=
  let count := max 1 (form.precision.getD 6)
  let (power, _) := scientific (count - 1) number divisor
  let trim (text : Text) : Text := if form.alternative then text else withoutZeros text
  if power < -4 || (count : Int) ≤ power then
    let (digits, ending) := form.scientificText (count - 1) number divisor
    trim digits ++ ending
  else trim (form.fixedText ((count : Int) - 1 - power).toNat number divisor)

def hexadecimalText (number divisor : Nat) : Text :=
  if number = 0 then "0x0p+0"
  else
    let power : Int := (number.log2 : Int) - (divisor.log2 : Int)
    let shift : Int := 52 - power
    let bits := match shift with
      | .ofNat up => number <<< up / divisor
      | .negSucc down => number / (divisor <<< (down + 1))
    let digits := Nat.toDigits 16 (bits % Decimal.Binary64.fullMantissa)
    let wide := List.replicate (13 - digits.length) '0' ++ digits
    let kept := (wide.reverse.dropWhile (· = '0')).reverse
    let point : Text := if kept = [] then [] else '.' :: kept
    "0x1" ++ point ++ 'p' :: (if power < 0 then ['-'] else ['+']) ++ Text.ofNat power.natAbs

def real (form : Form) (kind : Char) (value : Real) : Text :=
  let cased (text : Text) : Text := if kind.isUpper then text.map Char.toUpper else text
  match value with
  | .infinite negative => form.assemble false (form.sign negative) (cased "inf")
  | .none negative => form.assemble false (form.sign negative) (cased "nan")
  | .finite negative number divisor =>
    let count := form.precision.getD 6
    let text := match kind.toLower with
      | 'f' => form.fixedText count number divisor
      | 'e' =>
        let (digits, ending) := form.scientificText count number divisor
        digits ++ ending
      | 'a' => hexadecimalText number divisor
      | _ => form.generalText number divisor
    form.assemble form.zeros (form.sign negative) (cased text)

end Form

end PipDriver.Figure
