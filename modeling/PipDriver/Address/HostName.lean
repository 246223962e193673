import PipDriver.Address.DirectionTable
import PipDriver.Address.JoinTable
import PipDriver.Address.NameTable
import PipDriver.Address.Punycode
import PipDriver.Text.Composed
import PipDriver.Text.MarkTable

/-!
Preparing a host name for look-up. Characters are folded and composed, labels in ASCII form are decoded,
every label is checked, and what is left is the ASCII form, in which a label outside ASCII is only marked.
-/

namespace PipDriver.Address

def isBarred (character : Char) : Bool :=
  character.toNat ≤ 0x20 || character.toNat = 0x7F || character ∈ "#/:<>?@[\\]^|%".toList

def isPlainChar (character : Char) : Bool := character.toNat < 0x80

def isPlain (label : Text) : Bool := label.all isPlainChar

def foldingRunList : List (Nat × Nat × Nat × Nat) :=
  (Text.hexEntries foldingRuns).filterMap fun
    | [code, target] => some (code, code, 1, target)
    | [first, last, step, target] => some (first, last, step, target)
    | _ => none

def foldingWordList : List (Nat × Text) :=
  (Text.hexEntries foldingWords).filterMap fun
    | code :: targets => some (code, targets.map Char.ofNat)
    | [] => none

def replacement? (code : Nat) : Option Text :=
  match foldingRunList.find? fun (first, last, step, _) =>
      first ≤ code && code ≤ last && (code - first) % step = 0 with
  | some (first, _, _, target) => some [Char.ofNat (target + (code - first))]
  | none => (foldingWordList.find? fun (listed, _) => listed = code).map (·.2)

def foldChar? (character : Char) : Option Text :=
  if isPlainChar character then some [character.toLower]
  else if vanishingRanges.contains character then some []
  else if forbiddenRanges.contains character then none
  else some ((replacement? character.toNat).getD [character])

def fold? (text : Text) : Option Text :=
  (text.mapM foldChar?).map fun folded => Text.composed folded.flatten

def direction (character : Char) : Direction :=
  match directionRanges.find? fun (first, last, _) =>
      first ≤ character.toNat && character.toNat ≤ last with
  | some (_, _, direction) => direction
  | none => .left

def runsLeft (direction : Direction) : Bool :=
  direction = .right || direction = .arabic || direction = .arabicNumber

def directionsAgree (label : Text) : Bool :=
  let directions := label.map direction
  let ending := (directions.reverse.dropWhile (· = .mark)).head?
  match directions with
  | [] => true
  | .left :: _ =>
    directions.all (fun each => !runsLeft each && each ≠ .other) &&
      (ending = some .left || ending = some .digit)
  | first :: _ =>
    (first = .right || first = .arabic) &&
      directions.all (fun each => each ≠ .left && each ≠ .other) &&
      ending.any (fun each => runsLeft each || each = .digit) &&
      !(directions.contains .digit && directions.contains .arabicNumber)

def encodedMark : Text := "xn--"

def longestEncoded : Nat := 2000

def longestUnencoded : Nat := 1000

def decodeLabel? (label : Text) : Option Text :=
  match encodedMark.isPrefixOf? label with
  | none => some label
  | some encoded =>
    if !isPlain encoded || label.getLast? = some '-' || longestEncoded < encoded.length then none
    else match Punycode.decode? encoded with
      | none => none
      | some decoded => if fold? decoded = some decoded then some decoded else none

def startsWithMark (label : Text) : Bool :=
  match label with
  | [] => false
  | first :: _ => Text.markRanges.contains first

def silencerClass : Nat := 9

def isSilencer (character : Char) : Bool := Text.combiningClass character = silencerClass

def joinsBehind (character : Char) : Bool :=
  bothJoiningRanges.contains character || behindJoiningRanges.contains character

def joinsBefore (character : Char) : Bool :=
  bothJoiningRanges.contains character || beforeJoiningRanges.contains character

def nearest? (characters : Text) : Option Char :=
  characters.find? fun character => !transparentRanges.contains character

def joinersFit (before : Text) : Text → Bool
  | [] => true
  | character :: rest =>
    let silenced := before.head?.any isSilencer
    let between := (nearest? before).any joinsBehind && (nearest? rest).any joinsBefore
    let fits :=
      if character = '\u200d' then silenced
      else if character = '\u200c' then silenced || between
      else true
    fits && joinersFit (character :: before) rest

def labelFits (label : Text) : Bool :=
  !label.any isBarred && !startsWithMark label && joinersFit [] label &&
    (isPlain label || label.length ≤ longestUnencoded)

def labels? (name : Text) : Option (List Text) :=
  match fold? name with
  | none => none
  | some folded =>
    match (Text.fields '.' folded).mapM decodeLabel? with
    | none => none
    | some labels =>
      let mixed := labels.any fun label => label.any fun character => runsLeft (direction character)
      if !labels.all labelFits then none
      else if mixed && !labels.all directionsAgree then none
      else some labels

def asciiName? (name : Text) : Option Text :=
  (labels? name).map fun labels =>
    ['.'].intercalate (labels.map fun label => if isPlain label then label else encodedMark)

end PipDriver.Address
