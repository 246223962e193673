import PipDriver.Text

/-!
Decimal numerals as sixty-four-bit binary numbers and back. A numeral goes to the nearest number, ties to
the even one; a number is written with the fewest digits that lead back to it, and of those with the
nearest.
-/

namespace PipDriver.Decimal

structure Binary64 where
  mantissa : Nat
  exponent : Int
deriving DecidableEq, Repr

namespace Binary64

def lowestExponent : Int := -1074

def highestExponent : Int := 971

def fullMantissa : Nat := 0x10000000000000

def roundDiv (number divisor : Nat) : Nat :=
  let quotient := number / divisor
  let twice := 2 * (number % divisor)
  if divisor < twice || (twice = divisor && quotient % 2 = 1) then quotient + 1 else quotient

def scaled (number divisor : Nat) (exponent : Int) : Nat :=
  match exponent with
  | .ofNat power => roundDiv number (divisor <<< power)
  | .negSucc power => roundDiv (number <<< (power + 1)) divisor

def ofFraction? (number divisor : Nat) : Option Binary64 :=
  if number = 0 then some ⟨0, lowestExponent⟩
  else
    let guess : Int := (number.log2 : Int) - (divisor.log2 : Int) - 52
    let lower := max lowestExponent (guess - 1)
    let exponent := if 2 * fullMantissa ≤ scaled number divisor lower then lower + 1 else lower
    let mantissa := scaled number divisor exponent
    let (mantissa, exponent) :=
      if mantissa = 2 * fullMantissa then (fullMantissa, exponent + 1) else (mantissa, exponent)
    if highestExponent < exponent then none else some ⟨mantissa, exponent⟩

def ofDecimal? (coefficient : Nat) (power : Int) : Option Binary64 :=
  let size : Int := (Text.ofNat coefficient).length
  if coefficient = 0 || size + power < -400 then some ⟨0, lowestExponent⟩
  else if 400 < size + power then none
  else match power with
    | .ofNat up => ofFraction? (coefficient * Nat.pow 10 up) 1
    | .negSucc down => ofFraction? coefficient (Nat.pow 10 (down + 1))

structure Interval where
  low : Nat
  middle : Nat
  high : Nat
  divisor : Nat
  closed : Bool

def interval (number : Binary64) : Interval :=
  let narrow := number.mantissa = fullMantissa && lowestExponent < number.exponent
  let low := 4 * number.mantissa - (if narrow then 1 else 2)
  let middle := 4 * number.mantissa
  let high := 4 * number.mantissa + 2
  let closed := number.mantissa % 2 = 0
  match number.exponent with
  | .ofNat up => ⟨low <<< up, middle <<< up, high <<< up, 4, closed⟩
  | .negSucc down => ⟨low, middle, high, 4 <<< (down + 1), closed⟩

def gridPoint (divisor coefficient : Nat) (power : Int) : Nat × Nat :=
  match power with
  | .ofNat up => (coefficient * Nat.pow 10 up * divisor, 1)
  | .negSucc down => (coefficient * divisor, Nat.pow 10 (down + 1))

def holds (range : Interval) (coefficient : Nat) (power : Int) : Bool :=
  let (point, scale) := gridPoint range.divisor coefficient power
  if range.closed then range.low * scale ≤ point && point ≤ range.high * scale
  else range.low * scale < point && point < range.high * scale

def below (range : Interval) (power : Int) : Nat :=
  match power with
  | .ofNat up => range.middle / (range.divisor * Nat.pow 10 up)
  | .negSucc down => range.middle * Nat.pow 10 (down + 1) / range.divisor

def distance (range : Interval) (coefficient : Nat) (power : Int) : Nat :=
  let (point, scale) := gridPoint range.divisor coefficient power
  (point - range.middle * scale) + (range.middle * scale - point)

def hit? (range : Interval) (power : Int) : Option (Nat × Int) :=
  let lower := below range power
  match holds range lower power, holds range (lower + 1) power with
  | true, true =>
    if distance range (lower + 1) power < distance range lower power then some (lower + 1, power)
    else some (lower, power)
  | true, false => some (lower, power)
  | false, true => some (lower + 1, power)
  | false, false => none

def shortest (number : Binary64) : Nat × Int :=
  if number.mantissa = 0 then (0, 0)
  else
    let found := (List.range 700).findSome? fun (step : Nat) =>
      (hit? number.interval (310 - (step : Int))).filter fun (coefficient, _) => 0 < coefficient
    found.getD (0, 0)

def positional (coefficient : Nat) (power : Int) : Text :=
  let digits := Text.ofNat coefficient
  match power with
  | .ofNat up => digits ++ List.replicate (if coefficient = 0 then 0 else up) '0' ++ ['.', '0']
  | .negSucc down =>
    let places := down + 1
    let wide := List.replicate (places + 1 - digits.length) '0' ++ digits
    wide.take (wide.length - places) ++ '.' :: wide.drop (wide.length - places)

def text (number : Binary64) : Text :=
  let (coefficient, power) := number.shortest
  positional coefficient power

end Binary64

end PipDriver.Decimal
