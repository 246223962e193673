import PipDriver.Text

/-!
Reading the words of a command line into options and operands. An option may stand anywhere before a double
dash, and a single dash is an operand. Long names may be cut short as long as they stay unique.
-/

namespace PipDriver

structure OptionLetters where
  flags : List Char
  valued : List Char := []
  /-- Long names of these letters may be given a value as well. -/
  optional : List Char := []
  longs : List (Text × Char) := []
  /-- Behind these flags nothing is read. -/
  closing : List Char := []

inductive GivenOption
  | flag (letter : Char)
  | value (letter : Char) (text : Text)
deriving DecidableEq, Repr

inductive OptionFault
  | unknown (letter : Char)
  | valueMissing (letter : Char)
  | unknownName (text : Text)
  | ambiguous (text : Text) (names : List Text)
  | valueUnwanted (name : Text)
  | valueMissingFor (name : Text)
deriving DecidableEq, Repr

structure OptionReading where
  options : List GivenOption := []
  operands : List Text := []
deriving DecidableEq, Repr

namespace OptionReading

def withOption (option : GivenOption) (reading : OptionReading) : OptionReading :=
  { reading with options := option :: reading.options }

def withOperand (operand : Text) (reading : OptionReading) : OptionReading :=
  { reading with operands := operand :: reading.operands }

def valueOf? (reading : OptionReading) (letter : Char) : Option Text :=
  reading.options.reverse.findSome? fun
    | .value given text => if given = letter then some text else none
    | _ => none

def has (reading : OptionReading) (letter : Char) : Bool := .flag letter ∈ reading.options

end OptionReading

namespace OptionLetters

def readCluster (letters : OptionLetters) : Text → Except OptionFault (List GivenOption × Option Char)
  | [] => .ok ([], none)
  | letter :: rest =>
    if letter ∈ letters.valued then
      if rest = [] then .ok ([], some letter) else .ok ([.value letter rest], none)
    else if letter ∈ letters.closing then .ok ([.flag letter], none)
    else if letter ∈ letters.flags then
      (readCluster letters rest).map fun (options, wanting) => (.flag letter :: options, wanting)
    else .error (.unknown letter)

def longName (letters : OptionLetters) (text name : Text) : Except OptionFault (Text × Char) :=
  match letters.longs.find? fun entry => entry.1 = name with
  | some entry => .ok entry
  | none =>
    match letters.longs.filter fun entry => name.isPrefixOf entry.1 with
    | [] => .error (.unknownName text)
    | [entry] => .ok entry
    | first :: others =>
      if others.all fun entry => entry.2 = first.2 then .ok first
      else .error (.ambiguous text ((first :: others).map Prod.fst))

def readLong (letters : OptionLetters) (text : Text) :
    Except OptionFault (Option GivenOption × Option (Text × Char)) := do
  let (name, value) := match Text.splitOnce ['='] text with
    | some (name, value) => (name, some value)
    | none => (text, none)
  let (full, letter) ← letters.longName text name
  match value with
  | some value =>
    if letter ∈ letters.valued || letter ∈ letters.optional then .ok (some (.value letter value), none)
    else .error (.valueUnwanted full)
  | none =>
    if letter ∈ letters.valued then .ok (none, some (full, letter)) else .ok (some (.flag letter), none)

def readWord (letters : OptionLetters) (next : Option Text) :
    Text → Except OptionFault (Option (List GivenOption × Bool))
  | '-' :: '-' :: name => do
    match ← letters.readLong name, next with
    | (option, none), _ => return some (option.toList, false)
    | (_, some (_, letter)), some value => return some ([.value letter value], true)
    | (_, some (full, _)), none => throw (.valueMissingFor full)
  | '-' :: first :: others => do
    match ← letters.readCluster (first :: others), next with
    | (options, none), _ => return some (options, false)
    | (options, some wanting), some value => return some (options ++ [.value wanting value], true)
    | (_, some wanting), none => throw (.valueMissing wanting)
  | _ => return none

def closes (letters : OptionLetters) (options : List GivenOption) : Bool :=
  letters.closing.any fun letter => .flag letter ∈ options

def read (letters : OptionLetters) : List Text → Except OptionFault OptionReading
  | [] => .ok {}
  | word :: rest =>
    if word = ['-', '-'] then .ok { operands := rest }
    else match letters.readWord rest.head? word with
      | .error fault => .error fault
      | .ok none => (read letters rest).map (·.withOperand word)
      | .ok (some (options, false)) =>
        if letters.closes options then .ok { options }
        else (read letters rest).map fun reading => options.foldr OptionReading.withOption reading
      | .ok (some (options, true)) =>
        match rest with
        | [] => .ok { options }
        | _ :: more =>
          (read letters more).map fun reading => options.foldr OptionReading.withOption reading

def readFront (letters : OptionLetters) : List Text → Except OptionFault (List GivenOption × List Text)
  | [] => .ok ([], [])
  | word :: rest =>
    if word = ['-', '-'] then .ok ([], rest)
    else match letters.readWord rest.head? word with
      | .error fault => .error fault
      | .ok none => .ok ([], word :: rest)
      | .ok (some (options, false)) =>
        (readFront letters rest).map fun (others, operands) => (options ++ others, operands)
      | .ok (some (options, true)) =>
        match rest with
        | [] => .ok (options, [])
        | _ :: more =>
          (readFront letters more).map fun (others, operands) => (options ++ others, operands)

end OptionLetters

end PipDriver
