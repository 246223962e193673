import PipDriver.Shell.Tree

/-!
Shell text on its way through the reader: what is left of it, the line that has been reached, and the tokens
at its front that need no look inside words.
-/

namespace PipDriver.Shell

inductive Sign
  | direction (direction : Direction)
  /-- A text below the command; tabs at the front of its lines may be dropped. -/
  | document (stripped : Bool)
deriving DecidableEq, Repr

inductive Token
  | word (word : Word)
  | reserved (name : Text)
  | operator (text : Text)
  | redirect (channel : Nat) (sign : Sign)
  | newline
  | ending

structure Awaited where
  number : Nat
  mark : Text
  stripped : Bool
  expands : Bool

structure Source where
  rest : Text
  line : Nat := 1
  /-- A token that was read and put back. -/
  held : Option Token := none
  aliases : List (Text × Text) := []
  /-- Names that are being replaced, the number of characters behind the replacement, and whether a blank
  ends it. -/
  replaced : List (Text × Nat × Bool) := []
  awaited : List Awaited := []
  documents : List (Nat × Word) := []

structure Misreading where
  line : Nat
  reason : Text
deriving DecidableEq, Repr

abbrev Reading := StateT Source (Except Misreading)

namespace Token

def describe : Token → Text
  | .word _ => "word"
  | .reserved name => '"' :: name ++ ['"']
  | .operator text => '"' :: text ++ ['"']
  | .redirect _ _ => "redirection"
  | .newline => "newline"
  | .ending => "end of file"

def isReserved (name : Text) : Token → Bool
  | .reserved found => found = name
  | _ => false

def isOperator (text : Text) : Token → Bool
  | .operator found => found = text
  | _ => false

def closers : List Text := ["do", "done", "elif", "else", "esac", "fi", "then", "\x7d"]

def endsList : Token → Bool
  | .ending => true
  | .operator text => text = ")" || text = ";;"
  | .reserved name => name ∈ closers
  | _ => false

end Token

def isBlankChar (character : Char) : Bool := character = ' ' || character = '\t'

def endsWord (character : Char) : Bool :=
  isBlankChar character || character ∈ "\n;&|()<>".toList

def isSpecialName (character : Char) : Bool := character.isDigit || character ∈ "@*#?$!-".toList

def reservedWords : List Text :=
  ["!", "case", "do", "done", "elif", "else", "esac", "fi", "for", "if", "in", "then", "until", "while",
   "\x7b", "\x7d"]

def dropJoins : Text → Nat × Text
  | '\\' :: '\n' :: rest =>
    let (count, after) := dropJoins rest
    (count + 1, after)
  | text => (0, text)

def afterLine (text : Text) : Text := text.dropWhile (· ≠ '\n')

theorem length_afterLine_le (text : Text) : (afterLine text).length ≤ text.length :=
  (List.dropWhile_sublist _).length_le

def dropBlanks (text : Text) : Nat × Text :=
  match text with
  | '\\' :: '\n' :: rest =>
    let (count, after) := dropBlanks rest
    (count + 1, after)
  | first :: rest =>
    if isBlankChar first then dropBlanks rest
    else if first = '#' then dropBlanks (afterLine rest)
    else (0, text)
  | [] => (0, [])
termination_by text.length
decreasing_by
  · simp only [List.length_cons]
    omega
  · simp only [List.length_cons]
    omega
  · exact Nat.lt_succ_of_le (length_afterLine_le rest)

namespace Reading

def fail (reason : Text) : Reading α := do throw { line := (← get).line, reason }

def unexpected (token : Token) (wanted : Option Text := none) : Reading α :=
  let ending : Text := match wanted with
    | none => []
    | some text => " (expecting ".toList ++ text ++ [')']
  fail (token.describe ++ " unexpected" ++ ending)

def misplaced (token : Token) (wanted : Text) : Reading α :=
  unexpected token (some ('"' :: wanted ++ ['"']))

def hold (token : Token) : Reading Unit := modify fun source => { source with held := some token }

def peek : Reading (Option Char) := do
  let source ← get
  let (joins, rest) := dropJoins source.rest
  set { source with rest, line := source.line + joins }
  return rest.head?

def skip : Reading Unit :=
  modify fun source =>
    match source.rest with
    | [] => source
    | '\n' :: rest => { source with rest, line := source.line + 1 }
    | _ :: rest => { source with rest }

def next : Reading (Option Char) := do
  let character ← peek
  skip
  return character

def takeWhile (fits : Char → Bool) : Reading Text := do
  let source ← get
  let taken := source.rest.takeWhile fits
  set { source with rest := source.rest.drop taken.length, line := source.line + taken.count '\n' }
  return taken

def takeName (fuel : Nat) (fits : Char → Bool) : Reading Text := do
  match fuel with
  | 0 => return []
  | fuel + 1 =>
    match ← peek with
    | some character =>
      if fits character then
        skip
        return character :: (← takeName fuel fits)
      else return []
    | none => return []

def takes (wanted : Char) : Reading Bool := do
  if (← peek) = some wanted then
    skip
    return true
  else return false

def sign (outward : Bool) : Reading Sign := do
  if outward then
    if ← takes '>' then return .direction .appends
    else if ← takes '|' then return .direction .clobbers
    else if ← takes '&' then return .direction .follows
    else return .direction .writes
  else if ← takes '<' then return .document (← takes '-')
  else if ← takes '&' then return .direction .follows
  else if ← takes '>' then return .direction .updates
  else return .direction .reads

def redirect (channel : Option Nat) : Reading Token := do
  let outward := (← next) = some '>'
  return .redirect (channel.getD (if outward then 1 else 0)) (← sign outward)

def operator (first : Char) : Reading Token := do
  if first ∈ "&|;".toList then
    if ← takes first then return .operator [first, first]
  return .operator [first]

end Reading

def cutDocument (awaited : Awaited) (fresh : Bool) (fuel : Nat) (text : Text) : Text × Text :=
  match fuel with
  | 0 => ([], text)
  | fuel + 1 =>
    if text = [] then ([], [])
    else
      let line := text.takeWhile (· ≠ '\n')
      let after := text.drop (line.length + 1)
      let shown := if awaited.stripped && fresh then line.dropWhile (· = '\t') else line
      if fresh && shown = awaited.mark then ([], after)
      else
        let slashes := (shown.reverse.takeWhile (· = '\\')).length
        let closed := !awaited.expands || slashes % 2 = 0
        let (body, rest) := cutDocument awaited closed fuel after
        let ending : Text := if line.length < text.length then ['\n'] else []
        (shown ++ ending ++ body, rest)

end PipDriver.Shell
