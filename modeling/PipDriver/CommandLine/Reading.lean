import PipDriver.CommandLine.Setting
import PipDriver.Request.ExistsAction

/-!
Reading the words of a command line. Words are taken one by one, and the first that does not fit, or that asks
for help or the version, ends the reading.
-/

namespace PipDriver.CommandLine

inductive Stop
  | help
  | version
  | misuse
deriving DecidableEq, Repr

structure Given where
  settings : List (Setting × Text) := []
  operands : List Text := []
deriving DecidableEq, Repr

namespace Given

def has (given : Given) (setting : Setting) : Bool :=
  given.settings.any fun entry => entry.1 = setting

def texts (given : Given) (setting : Setting) : List Text :=
  given.settings.filterMap fun (listed, text) => if listed = setting then some text else none

def text? (given : Given) (setting : Setting) : Option Text := (given.texts setting).head?

def accepts (taken : Taken) (text : Text) : Bool :=
  match taken with
  | .nothing => text = []
  | .text => true
  | .path => text ≠ []
  | .action => (ExistsAction.parse text).toOption.isSome

def add (given : Given) (setting : Setting) (text : Text) : Except Stop Given :=
  if setting = .help then .error .help
  else if setting = .version then .error .version
  else if given.has setting && !setting.repeats then .error .misuse
  else if accepts setting.takes text then
    .ok { given with settings := given.settings ++ [(setting, text)] }
  else .error .misuse

def addOperand (most : Option Nat) (given : Given) (word : Text) : Except Stop Given :=
  if most.any fun count => count ≤ given.operands.length then .error .misuse
  else .ok { given with operands := given.operands ++ [word] }

end Given

def looksLikeSetting (word : Text) : Bool :=
  match word with
  | '-' :: _ :: _ => true
  | _ => false

def ofLong? (known : List Setting) (name : Text) : Option Setting :=
  known.find? fun setting => setting.long = name

def ofLetter? (known : List Setting) (letter : Char) : Option Setting :=
  known.find? fun setting => setting.letter? = some letter

def attachedValue (rest : Text) : Option Text :=
  match rest with
  | [] => none
  | '=' :: value => some value
  | value => some value

def readLetters (known : List Setting) (given : Given) :
    Text → Except Stop (Given × Option Setting)
  | [] => .ok (given, none)
  | letter :: rest =>
    match ofLetter? known letter with
    | none => .error .misuse
    | some setting =>
      if setting.takes = .nothing then
        match given.add setting [] with
        | .error stop => .error stop
        | .ok more => readLetters known more rest
      else match attachedValue rest with
        | none => .ok (given, some setting)
        | some value => (given.add setting value).map fun more => (more, none)

def readLong (known : List Setting) (given : Given) (word : Text) :
    Except Stop (Given × Option Setting) :=
  let (name, value) := match Text.splitOnce "=" word with
    | some (name, value) => (name, some value)
    | none => (word, none)
  match ofLong? known name with
  | none => .error .misuse
  | some setting =>
    match value with
    | none =>
      if setting.takes = .nothing then (given.add setting []).map fun more => (more, none)
      else .ok (given, some setting)
    | some value =>
      if setting.takes = .nothing then .error .misuse
      else (given.add setting value).map fun more => (more, none)

def readSettings (known : List Setting) (given : Given) (word : Text) :
    Except Stop (Given × Option Setting) :=
  match word with
  | '-' :: '-' :: name => readLong known given name
  | _ => readLetters known given word.tail

inductive Role
  | divider
  | settings
  | operand

def roleOf (word : Text) : Role :=
  if word = "--" then .divider else if looksLikeSetting word then .settings else .operand

def readVerb (verb : Verb) (given : Given) : List Text → Except Stop Given
  | [] => .ok given
  | word :: rest =>
    match roleOf word with
    | .divider => rest.foldlM (Given.addOperand verb.mostOperands) given
    | .operand =>
      match given.addOperand verb.mostOperands word with
      | .error stop => .error stop
      | .ok more => readVerb verb more rest
    | .settings =>
      match readSettings verb.settings given word with
      | .error stop => .error stop
      | .ok (more, none) => readVerb verb more rest
      | .ok (more, some wanting) =>
        match rest with
        | [] => .error .misuse
        | value :: others =>
          if looksLikeSetting value then .error .misuse
          else match more.add wanting value with
            | .error stop => .error stop
            | .ok most => readVerb verb most others

def leadingSettings : List Setting := .version :: Verb.common

def readHelp (rest : List Text) : Stop :=
  match rest with
  | [] => .help
  | [word] => if (Verb.ofName? word).isSome || word = "help" then .help else .misuse
  | _ => .misuse

def readLeading (given : Given) : List Text → Except Stop (Given × Verb × List Text)
  | [] => .error .misuse
  | word :: rest =>
    match roleOf word with
    | .divider => .error .misuse
    | .operand =>
      match Verb.ofName? word with
      | some verb => .ok (given, verb, rest)
      | none => if word = "help" then .error (readHelp rest) else .error .misuse
    | .settings =>
      match readSettings leadingSettings given word with
      | .error stop => .error stop
      | .ok (more, none) => readLeading more rest
      | .ok (more, some wanting) =>
        match rest with
        | [] => .error .misuse
        | value :: others =>
          if looksLikeSetting value then .error .misuse
          else match more.add wanting value with
            | .error stop => .error stop
            | .ok most => readLeading most others

structure Reading where
  leading : Given
  verb : Verb
  given : Given
deriving DecidableEq, Repr

def read (words : List Text) : Except Stop Reading :=
  match readLeading {} words with
  | .error stop => .error stop
  | .ok (leading, verb, rest) =>
    (readVerb verb {} rest).map fun given => { leading, verb, given }

end PipDriver.CommandLine
