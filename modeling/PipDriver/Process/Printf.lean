import PipDriver.Process.Basic
import PipDriver.Process.Figure

/-!
Printing by a format. A format with places for arguments is used again until no argument is left.
-/

namespace PipDriver

namespace Printf

structure Manner where
  format : EscapeRules
  argument : EscapeRules
  flawed : Text → Figure.Flaw → Text
  /-- The complaint about a place that cannot be filled, and the code that it ends with. -/
  unknown : Text → Text
  unfinished : Text → Text
  brokenCode : Nat
  /-- Whether letters for the size of numbers are passed over. -/
  sizes : Bool

inductive Amount
  | fixed (number : Nat)
  | given
deriving DecidableEq, Repr

structure Place where
  text : Text
  flags : Text
  width : Option Amount
  precision : Option Amount
  kind : Char

inductive Piece
  | text (text : Text)
  | stop
  | place (place : Place)
  | unfinished (text : Text)

def readAmount (text : Text) : Option Amount × Text :=
  match text with
  | '*' :: rest => (some .given, rest)
  | _ =>
    let digits := text.takeWhile Char.isDigit
    (if digits = [] then none else some (.fixed (Escape.digitsValue 10 digits)), text.drop digits.length)

def readPlace (manner : Manner) (text : Text) : Piece × Text :=
  let flags := text.takeWhile fun sign => sign ∈ "-0 +#".toList
  let (width, rest) := readAmount (text.drop flags.length)
  let (precision, rest) := match rest with
    | '.' :: more =>
      let (amount, after) := readAmount more
      (some (amount.getD (.fixed 0)), after)
    | _ => (none, rest)
  let rest := if manner.sizes then rest.dropWhile fun letter => letter ∈ "hlLjtz".toList else rest
  match rest with
  | [] => (.unfinished ('%' :: text), [])
  | kind :: after =>
    (.place { text := '%' :: text.take (text.length - after.length), flags, width, precision, kind }, after)

def pieces (manner : Manner) (fuel : Nat) (text : Text) : List Piece :=
  match fuel, text with
  | 0, _ => []
  | _, [] => []
  | fuel + 1, '%' :: '%' :: rest => .text ['%'] :: pieces manner fuel rest
  | fuel + 1, '%' :: rest =>
    let (piece, after) := readPlace manner rest
    piece :: pieces manner fuel after
  | fuel + 1, '\\' :: sign :: rest =>
    if manner.format.stops && sign = 'c' then [.stop]
    else match Escape.read? manner.format sign rest with
      | some (shown, taken) => .text shown :: pieces manner fuel (rest.drop taken)
      | none => .text ['\\', sign] :: pieces manner fuel rest
  | fuel + 1, character :: rest => .text [character] :: pieces manner fuel rest

structure Progress where
  printed : Text := []
  complaints : List Text := []
  arguments : List Text
  code : Nat := 0
  ended : Bool := false

namespace Progress

def print (progress : Progress) (text : Text) : Progress :=
  { progress with printed := progress.printed ++ text }

def take (progress : Progress) : Text × Progress :=
  (progress.arguments.headD [], { progress with arguments := progress.arguments.tail })

def complain (progress : Progress) (text : Text) (code : Nat) : Progress :=
  { progress with complaints := progress.complaints ++ [text], code := max progress.code code }

def note (manner : Manner) (argument : Text) (flaw : Option Figure.Flaw) (progress : Progress) : Progress :=
  match flaw with
  | none => progress
  | some flaw => progress.complain (manner.flawed argument flaw) 1

def takeWhole (manner : Manner) (signed : Bool) (progress : Progress) : Int × Progress :=
  let (argument, rest) := progress.take
  let (value, flaw) := Figure.readWhole signed argument
  (value, rest.note manner argument flaw)

def takeAmount (manner : Manner) (amount : Option Amount) (progress : Progress) : Option Int × Progress :=
  match amount with
  | none => (none, progress)
  | some (.fixed number) => (some number, progress)
  | some .given =>
    let (value, rest) := progress.takeWhole manner true
    (some value, rest)

end Progress

def fill (manner : Manner) (place : Place) (progress : Progress) : Progress :=
  let (width, progress) := progress.takeAmount manner place.width
  let (precision, progress) := progress.takeAmount manner place.precision
  let form : Figure.Form :=
    { left := '-' ∈ place.flags || width.any (· < 0)
      plus := '+' ∈ place.flags
      blank := ' ' ∈ place.flags
      alternative := '#' ∈ place.flags
      zeros := '0' ∈ place.flags
      width := (width.getD 0).natAbs
      precision := (precision.filter (0 ≤ ·)).map Int.toNat }
  let cut (text : Text) : Text := match form.precision with
    | some count => text.take count
    | none => text
  let kind := place.kind
  if kind = 's' then
    let (argument, progress) := progress.take
    progress.print (form.fill (cut argument))
  else if kind = 'b' then
    let (argument, progress) := progress.take
    let shown := Escape.interpret manner.argument argument
    { progress.print (form.fill (cut shown.text)) with ended := shown.stopped }
  else if kind = 'c' then
    let (argument, progress) := progress.take
    progress.print (form.fill (if argument = [] then ['\x00'] else argument.take 1))
  else if kind = 'd' || kind = 'i' then
    let (value, progress) := progress.takeWhole manner true
    progress.print (form.signed value)
  else if kind ∈ "ouxX".toList then
    let (value, progress) := progress.takeWhole manner false
    let base := if kind = 'o' then 8 else if kind = 'u' then 10 else 16
    progress.print (form.unsigned base (kind = 'X') value.toNat)
  else if kind ∈ "aAeEfFgG".toList then
    let (argument, progress) := progress.take
    let (value, flaw) := Figure.readReal argument
    (progress.note manner argument flaw).print (form.real kind value)
  else { progress.complain (manner.unknown place.text) manner.brokenCode with ended := true }

def step (manner : Manner) (progress : Progress) (piece : Piece) : Progress :=
  if progress.ended then progress
  else match piece with
    | .text text => progress.print text
    | .stop => { progress with ended := true }
    | .place place => fill manner place progress
    | .unfinished text => { progress.complain (manner.unfinished text) manner.brokenCode with ended := true }

def uses (manner : Manner) (fuel : Nat) (format : List Piece) (progress : Progress) : Progress :=
  match fuel with
  | 0 => progress
  | fuel + 1 =>
    let after := format.foldl (step manner) progress
    if !after.ended && after.arguments ≠ [] && after.arguments.length < progress.arguments.length then
      uses manner fuel format after
    else after

def run (manner : Manner) (format : Text) (arguments : List Text) : Progress :=
  uses manner (arguments.length + 1) (pieces manner format.length format) { arguments }

def Progress.report (progress : Progress) : Report :=
  let complaints := progress.complaints.map fun text => (true, Text.toBytes (text ++ ['\n']))
  { written := complaints ++ [(false, progress.printed.toBytes)], code := progress.code }

end Printf

end PipDriver
