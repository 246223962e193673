import PipDriver.Shell.Source

/-!
Reading shell text. A word may hold commands, so words and commands are read by one recursion. It is bounded
by fuel; what a text needs is bounded by its length.
-/

namespace PipDriver.Shell

inductive Mode
  | bare
  /-- The word that ends a text below a command; it holds no expansions. -/
  | plain
  /-- Between double quotes, perhaps within braces. -/
  | double (braced : Bool)
  | document
  /-- Behind the sign of a parameter expansion; inside quotes of its own a brace does not end it. -/
  | braces (quoted inner document : Bool)
  /-- A sum, inside that many parentheses of its own. -/
  | sum (depth : Nat)
deriving DecidableEq, Repr

namespace Mode

def quotes : Mode → Bool
  | .bare => false
  | .plain => false
  | .braces quoted _ _ => quoted
  | _ => true

def isWord (mode : Mode) : Bool := mode = .bare || mode = .plain

def isDocument : Mode → Bool
  | .document => true
  | .braces _ _ below => below
  | _ => false

def unclosed : Mode → Text
  | .braces true _ false => "Unterminated quoted string"
  | .braces _ _ _ => "Missing '\x7d'"
  | .sum _ => "Missing '))'"
  | _ => "Unterminated quoted string"

def escapes (mode : Mode) (character : Char) : Bool :=
  if !mode.quotes || character ∈ "\\$\x60".toList then true
  else match mode with
    | .double braced => character = '"' || (braced && character = '\x7d')
    | .document => false
    | .braces _ _ _ => character = '"' || character = '\x7d'
    | _ => character = '"'

def isIdle (mode : Mode) (character : Char) : Bool :=
  character ∉ "'\"$\\\x60\x7d()".toList && !(mode.isWord && endsWord character)

end Mode

structure Wanted where
  keywords : Bool := false
  aliases : Bool := false
  skipsLines : Bool := false
  plain : Bool := false

namespace Wanted

def command : Wanted := { keywords := true, aliases := true }

def commandBelow : Wanted := { command with skipsLines := true }

end Wanted

inductive Extent
  | line
  | filled
  | any
deriving DecidableEq, Repr

def specialCommands : List Text :=
  [".", ":", "break", "continue", "eval", "exec", "exit", "export", "local", "readonly", "return", "set",
   "shift", "times", "trap", "unset"]

namespace Reading

def tooDeep : Reading α := fail "Nesting too deep"

def takeBackquoted (fuel : Nat) (double : Bool) : Reading Text := do
  match fuel with
  | 0 => tooDeep
  | fuel + 1 =>
    match ← next with
    | none => fail "EOF in backquote substitution"
    | some '\x60' => return []
    | some '\\' =>
      match (← get).rest.head? with
      | none => takeBackquoted fuel double
      | some character =>
        skip
        let kept := !("\\$\x60".toList.contains character || (double && character = '"'))
        let rest ← takeBackquoted fuel double
        return if kept then '\\' :: character :: rest else character :: rest
    | some character => return character :: (← takeBackquoted fuel double)

def closeReplaced : Reading Bool := do
  let source ← get
  let isUsedUp (entry : Text × Nat × Bool) : Bool := source.rest.length ≤ entry.2.1
  set { source with replaced := source.replaced.filter fun entry => !isUsedUp entry }
  return source.replaced.any fun entry => isUsedUp entry && entry.2.2

def replaceBy (name value : Text) : Reading Unit :=
  modify fun source =>
    if value = [] then source
    else { source with
      rest := value ++ source.rest
      replaced := (name, source.rest.length, (value.getLast?.map isBlankChar).getD false) :: source.replaced }

def replacement? (text : Text) : Reading (Option Text) := do
  let source ← get
  return if source.replaced.any fun entry => entry.1 = text then none else source.aliases.lookup text

def await (mark : Word) (stripped : Bool) : Reading Nat := do
  let source ← get
  let number := source.documents.length + source.awaited.length
  let quoted := mark.any fun
    | .mark => true
    | .char _ quoted => quoted
    | _ => false
  let text := mark.filterMap fun
    | .char character _ => some character
    | _ => none
  let awaited : Awaited := { number, mark := text, stripped, expands := !quoted }
  set { source with awaited := source.awaited ++ [awaited] }
  return number

end Reading

def appendTo (sofar : Option Script) (script : Script) : Script :=
  match sofar with
  | none => script
  | some first => .sequence first script

open Reading

mutual

def readPieces (fuel : Nat) (mode : Mode) : Reading Word := do
  match fuel with
  | 0 => tooDeep
  | fuel + 1 =>
    let quoted := mode.quotes
    let literal (character : Char) : Reading Word := do
      return .char character quoted :: (← readPieces fuel mode)
    match ← peek with
    | none =>
      if mode.isWord || mode = .document then return [] else fail mode.unclosed
    | some first =>
      if mode.isIdle first then
        let run ← takeWhile mode.isIdle
        return run.map (fun character => .char character quoted) ++ (← readPieces fuel mode)
      else if mode.isWord && endsWord first then return []
      else
        skip
        if first = '\\' then
          match (← get).rest.head? with
          | none => return [.char '\\' true]
          | some character =>
            skip
            let rest ← readPieces fuel mode
            if mode.escapes character then return .char character true :: rest
            else return .char '\\' true :: .char character true :: rest
        else if first = '\'' && !quoted then
          let run ← takeWhile (· ≠ '\'')
          if (← get).rest = [] then fail "Unterminated quoted string"
          skip
          let rest ← readPieces fuel mode
          return .mark :: run.map (fun character => .char character true) ++ .mark :: rest
        else if first = '"' then
          match mode with
          | .double _ => return []
          | .document => literal first
          | .sum _ => literal first
          | .braces true inner below => readPieces fuel (.braces true (!inner) below)
          | _ =>
            let run ← readPieces fuel (.double (!mode.isWord))
            let rest ← readPieces fuel mode
            return .mark :: run ++ .mark :: rest
        else if first = '$' && mode ≠ .plain then
          let piece ← readDollar fuel mode
          return piece :: (← readPieces fuel mode)
        else if first = '\x60' && mode ≠ .plain then
          let piece ← readBackquoted fuel mode
          return piece :: (← readPieces fuel mode)
        else match mode with
          | .braces _ false _ => if first = '\x7d' then return [] else literal first
          | .sum depth =>
            if first = '(' then
              return .char first true :: (← readPieces fuel (.sum (depth + 1)))
            else if first = ')' then
              match depth with
              | outer + 1 => return .char first true :: (← readPieces fuel (.sum outer))
              | 0 => if ← takes ')' then return [] else literal first
            else literal first
          | _ => literal first

def readDollar (fuel : Nat) (mode : Mode) : Reading Piece := do
  match fuel with
  | 0 => tooDeep
  | fuel + 1 =>
    let quoted := mode.quotes
    match ← peek with
    | none => return .char '$' quoted
    | some first =>
      if first = '(' then
        skip
        if ← takes '(' then return .number (← readPieces fuel (.sum 0)) quoted
        else
          let awaited := (← get).awaited
          modify fun source => { source with awaited := [] }
          let script ← readList fuel .any none
          let closing ← readToken fuel {}
          if !closing.isOperator [')'] then misplaced closing [')']
          modify fun source => { source with awaited }
          return .output script quoted
      else if first = '\x7b' then
        skip
        readBraces fuel mode
      else if isNameStart first then
        return .parameter (← takeName (← get).rest.length isNameChar) .keep quoted
      else if isSpecialName first then
        skip
        return .parameter [first] .keep quoted
      else return .char '$' quoted

def readBraces (fuel : Nat) (mode : Mode) : Reading Piece := do
  match fuel with
  | 0 => tooDeep
  | fuel + 1 =>
    let length ← get
    let name : Reading Text := do
      let fits := if ((← peek).map isNameStart).getD false then isNameChar else Char.isDigit
      takeName (← get).rest.length fits
    match ← peek with
    | some '#' =>
      skip
      match ← peek with
      | some second =>
        if isNameChar second then
          let text ← name
          if ← takes '\x7d' then return .parameter text .length mode.quotes
          else readUnknown fuel mode
        else if isSpecialName second
            && (dropJoins ((← get).rest.drop 1)).2.head? = some '\x7d' then
          skip
          discard next
          return .parameter [second] .length mode.quotes
        else readChange fuel mode ['#']
      | none => readChange fuel mode ['#']
    | some first =>
      if isNameChar first then readChange fuel mode (← name)
      else if first = '\x7d' then readUnknown fuel mode
      else
        skip
        if isSpecialName first then readChange fuel mode [first] else readUnknown fuel mode
    | none => set length; readUnknown fuel mode

def readChange (fuel : Nat) (mode : Mode) (name : Text) : Reading Piece := do
  match fuel with
  | 0 => tooDeep
  | fuel + 1 =>
    let quoted := mode.quotes
    let choosing (choice : Choice) (emptyToo : Bool) : Reading Piece := do
      skip
      let word ← readPieces fuel (.braces quoted false mode.isDocument)
      return .parameter name (.choose choice emptyToo word) quoted
    let trimming (sign : Char) (fromEnd : Bool) : Reading Piece := do
      skip
      let longest ← takes sign
      let pattern ← readPieces fuel (.braces false false mode.isDocument)
      return .parameter name (.trim fromEnd longest pattern) quoted
    let emptyToo ← takes ':'
    match ← peek with
    | some '-' => choosing .otherwise emptyToo
    | some '+' => choosing .instead emptyToo
    | some '?' => choosing .fail emptyToo
    | some '=' => choosing .assign emptyToo
    | some '%' => if emptyToo then readUnknown fuel mode else trimming '%' true
    | some '#' => if emptyToo then readUnknown fuel mode else trimming '#' false
    | some '\x7d' =>
      skip
      if emptyToo then readUnknown fuel mode else return .parameter name .keep quoted
    | _ => readUnknown fuel mode

def readUnknown (fuel : Nat) (mode : Mode) : Reading Piece := do
  match fuel with
  | 0 => tooDeep
  | fuel + 1 =>
    discard (readPieces fuel (.braces mode.quotes false mode.isDocument))
    return .parameter [] .unknown mode.quotes

def readBackquoted (fuel : Nat) (mode : Mode) : Reading Piece := do
  match fuel with
  | 0 => tooDeep
  | fuel + 1 =>
    let text ← takeBackquoted ((← get).rest.length + 1) mode.quotes
    let outer ← get
    set { outer with rest := text, line := 1, awaited := [], replaced := [] }
    let script ← readList fuel .any none
    modify fun inner => { outer with documents := inner.documents }
    return .output script mode.quotes

def readToken (fuel : Nat) (wanted : Wanted) : Reading Token := do
  match fuel with
  | 0 => tooDeep
  | fuel + 1 =>
    let source ← get
    let token ← match source.held with
      | some token =>
        set { source with held := none }
        pure token
      | none => readFresh fuel wanted.plain
    let follows ← closeReplaced
    match token with
    | .newline =>
      if wanted.skipsLines then
        readDocuments fuel
        readToken fuel wanted
      else return token
    | .word word =>
      match word.bareText? with
      | none => return token
      | some text =>
        if wanted.keywords && text ∈ reservedWords then return .reserved text
        else if wanted.aliases || follows then
          match ← replacement? text with
          | none => return token
          | some value =>
            replaceBy text value
            readToken fuel wanted
        else return token
    | _ => return token

def readFresh (fuel : Nat) (plain : Bool) : Reading Token := do
  match fuel with
  | 0 => tooDeep
  | fuel + 1 =>
    modify fun source =>
      let (joins, rest) := dropBlanks source.rest
      { source with rest, line := source.line + joins }
    match ← peek with
    | none => return .ending
    | some first =>
      if first = '\n' then
        skip
        return .newline
      else if first ∈ "&|;()".toList then
        skip
        operator first
      else if first = '<' || first = '>' then redirect none
      else
        let word ← readPieces fuel (if plain then .plain else .bare)
        let isDirected := ((← get).rest.head?.map fun sign => sign = '<' || sign = '>').getD false
        match word with
        | [.char digit false] =>
          if isDirected && digit.isDigit then redirect (some (digit.toNat - '0'.toNat))
          else return .word word
        | _ => return .word word

def readDocuments (fuel : Nat) : Reading Unit := do
  match fuel with
  | 0 => tooDeep
  | fuel + 1 =>
    let source ← get
    match source.awaited with
    | [] => return
    | first :: others =>
      let (body, rest) := cutDocument first true (source.rest.length + 1) source.rest
      let taken := (source.rest.take (source.rest.length - rest.length)).count '\n'
      set { source with awaited := [], rest := body }
      let word ← if first.expands then readPieces fuel .document else pure (Word.quoted body)
      modify fun inner =>
        { inner with
          rest, line := source.line + taken, awaited := others
          documents := inner.documents ++ [(first.number, word)] }
      readDocuments fuel

def readList (fuel : Nat) (extent : Extent) (sofar : Option Script) : Reading Script := do
  match fuel with
  | 0 => tooDeep
  | fuel + 1 =>
    let token ← readToken fuel { Wanted.command with skipsLines := extent ≠ .line }
    match token with
    | .newline =>
      readDocuments fuel
      return sofar.getD .nothing
    | .ending =>
      readDocuments fuel
      hold token
      return sofar.getD .nothing
    | _ =>
      hold token
      if (extent = .any || (extent = .filled && sofar.isSome)) && token.endsList then
        return sofar.getD .nothing
      else
        let line := (← get).line
        let chain ← readChain fuel {}
        let separator ← readToken fuel {}
        let isBackground := separator.isOperator ['&']
        let script := appendTo sofar (if isBackground then .background line chain else chain)
        match separator with
        | .ending =>
          readDocuments fuel
          hold separator
          return script
        | .newline =>
          hold separator
          readList fuel extent (some script)
        | _ =>
          if isBackground || separator.isOperator [';'] then readList fuel extent (some script)
          else
            if extent = .line then unexpected separator
            hold separator
            return script

def readChain (fuel : Nat) (wanted : Wanted) : Reading Script := do
  match fuel with
  | 0 => tooDeep
  | fuel + 1 => readLinks fuel (← readPipeline fuel wanted)

def readLinks (fuel : Nat) (first : Script) : Reading Script := do
  match fuel with
  | 0 => tooDeep
  | fuel + 1 =>
    let token ← readToken fuel {}
    if token.isOperator ['&', '&'] then
      readLinks fuel (.both first (← readPipeline fuel .commandBelow))
    else if token.isOperator ['|', '|'] then
      readLinks fuel (.either first (← readPipeline fuel .commandBelow))
    else
      hold token
      return first

def readPipeline (fuel : Nat) (wanted : Wanted) : Reading Script := do
  match fuel with
  | 0 => tooDeep
  | fuel + 1 =>
    let token ← readToken fuel wanted
    let negated := token.isReserved ['!']
    if !negated then hold token
    let first ← readCommand fuel .command
    let others ← readStages fuel
    let script := if others.isEmpty then first else .pipeline (first :: others)
    return if negated then .negate script else script

def readStages (fuel : Nat) : Reading (List Script) := do
  match fuel with
  | 0 => tooDeep
  | fuel + 1 =>
    let token ← readToken fuel {}
    if token.isOperator ['|'] then
      let stage ← readCommand fuel .commandBelow
      return stage :: (← readStages fuel)
    else
      hold token
      return []

def readCommand (fuel : Nat) (wanted : Wanted) : Reading Script := do
  match fuel with
  | 0 => tooDeep
  | fuel + 1 =>
    let line := (← get).line
    let token ← readToken fuel wanted
    match token with
    | .word _ =>
      hold token
      readSimple fuel (← get).line [] [] []
    | .redirect _ _ =>
      hold token
      readSimple fuel (← get).line [] [] []
    | .operator ['('] =>
      let inner ← readList fuel .filled none
      expect fuel (.operator [')']) [')']
      return .subshell line inner (← readRedirections fuel)
    | .reserved name => readCompound fuel line name
    | _ => unexpected token

def expect (fuel : Nat) (wanted : Token) (text : Text) : Reading Unit := do
  match fuel with
  | 0 => tooDeep
  | fuel + 1 =>
    let token ← readToken fuel {}
    match wanted, token with
    | .operator _, .operator found => if found = text then return else misplaced token text
    | .reserved _, .reserved found => if found = text then return else misplaced token text
    | _, _ => misplaced token text

def readCompound (fuel : Nat) (line : Nat) (name : Text) : Reading Script := do
  match fuel with
  | 0 => tooDeep
  | fuel + 1 =>
    let finish (script : Script) (closer : Text) : Reading Script := do
      expect fuel (.reserved closer) closer
      readTail fuel line script
    let readBody : Reading Script := do
      let token ← readToken fuel .commandBelow
      if !token.isReserved "do" then misplaced token "do"
      readList fuel .filled none
    if name = "if" then
      let script ← readChoice fuel
      finish script "fi"
    else if name = "while" || name = "until" then
      let condition ← readList fuel .filled none
      expect fuel (.reserved "do") "do"
      let body ← readList fuel .filled none
      finish (.repeatWhile (name = "while") condition body) "done"
    else if name = "for" then
      match ← readToken fuel {} with
      | .word word =>
        match word.bareText?.filter isName with
        | none => fail "Bad for loop variable"
        | some variableName =>
          let token ← readToken fuel .commandBelow
          let items ← if token.isReserved "in" then readItems fuel
            else
              if !token.isOperator [';'] then hold token
              pure [[.mark, .parameter ['@'] .keep true, .mark]]
          let body ← readBody
          finish (.loop line variableName items body) "done"
      | _ => fail "Bad for loop variable"
    else if name = "case" then
      match ← readToken fuel {} with
      | .word subject =>
        let token ← readToken fuel .commandBelow
        if !token.isReserved "in" then misplaced token "in"
        let arms ← readArms fuel
        readTail fuel line (.select line subject arms)
      | token => unexpected token (some "word")
    else if name = "\x7b" then
      let script ← readList fuel .filled none
      finish script "\x7d"
    else unexpected (.reserved name)

def readChoice (fuel : Nat) : Reading Script := do
  match fuel with
  | 0 => tooDeep
  | fuel + 1 =>
    let condition ← readList fuel .filled none
    expect fuel (.reserved "then") "then"
    let yes ← readList fuel .filled none
    let token ← readToken fuel {}
    if token.isReserved "elif" then return .choose condition yes (← readChoice fuel)
    else if token.isReserved "else" then
      return .choose condition yes (← readList fuel .filled none)
    else
      hold token
      return .choose condition yes .nothing

def readItems (fuel : Nat) : Reading (List Word) := do
  match fuel with
  | 0 => tooDeep
  | fuel + 1 =>
    match ← readToken fuel {} with
    | .word word => return word :: (← readItems fuel)
    | .newline => return []
    | token => if token.isOperator [';'] then return [] else unexpected token

def readArms (fuel : Nat) : Reading (List (List Word × Script)) := do
  match fuel with
  | 0 => tooDeep
  | fuel + 1 =>
    let first ← readToken fuel { keywords := true, skipsLines := true }
    if first.isReserved "esac" then return []
    else
      let start ← if first.isOperator ['('] then readToken fuel {} else pure first
      let patterns ← readPatterns fuel start
      let body ← readList fuel .any none
      let closing ← readToken fuel { keywords := true, skipsLines := true }
      if closing.isReserved "esac" then return [(patterns, body)]
      else if closing.isOperator [';', ';'] then return (patterns, body) :: (← readArms fuel)
      else misplaced closing [';', ';']

def readPatterns (fuel : Nat) (first : Token) : Reading (List Word) := do
  match fuel with
  | 0 => tooDeep
  | fuel + 1 =>
    let word : Word := match first with
      | .word word => word
      | .reserved name => name.map fun character => .char character false
      | _ => []
    let token ← readToken fuel {}
    if token.isOperator ['|'] then
      let next ← readToken fuel {}
      return word :: (← readPatterns fuel next)
    else if token.isOperator [')'] then return [word]
    else misplaced token [')']

def readTail (fuel : Nat) (line : Nat) (script : Script) : Reading Script := do
  match fuel with
  | 0 => tooDeep
  | fuel + 1 =>
    let redirections ← readRedirections fuel
    return if redirections.isEmpty then script else .redirected line script redirections

def readRedirections (fuel : Nat) : Reading (List Redirection) := do
  match fuel with
  | 0 => tooDeep
  | fuel + 1 =>
    let token ← readToken fuel .command
    match token with
    | .redirect channel sign =>
      let redirection ← readTarget fuel channel sign
      return redirection :: (← readRedirections fuel)
    | _ =>
      hold token
      return []

def readTarget (fuel : Nat) (channel : Nat) (sign : Sign) : Reading Redirection := do
  match fuel with
  | 0 => tooDeep
  | fuel + 1 =>
    match sign with
    | .direction direction =>
      match ← readToken fuel {} with
      | .word word => return .mk channel direction word
      | token => unexpected token
    | .document stripped =>
      match ← readToken fuel { plain := true } with
      | .word word => return .mk channel (.document (← await word stripped)) []
      | token => unexpected token

def readSimple (fuel : Nat) (line : Nat) (assignments words : List Word)
    (redirections : List Redirection) : Reading Script := do
  match fuel with
  | 0 => tooDeep
  | fuel + 1 =>
    let token ← readToken fuel { aliases := words.isEmpty }
    match token with
    | .word word =>
      if words.isEmpty && word.assignment?.isSome then
        readSimple fuel line (assignments ++ [word]) words redirections
      else readSimple fuel line assignments (words ++ [word]) redirections
    | .redirect channel sign =>
      let redirection ← readTarget fuel channel sign
      readSimple fuel line assignments words (redirections ++ [redirection])
    | _ =>
      match words, assignments, redirections, token with
      | [name], [], [], .operator ['('] =>
        expect fuel (.operator [')']) [')']
        match name.bareText?.filter isName with
        | none => fail "Bad function name"
        | some text =>
          if text ∈ specialCommands then fail "Bad function name"
          let start := (← get).line
          return .define start text (← readCommand fuel .commandBelow)
      | _, _, _, _ =>
        hold token
        return .simple line assignments words redirections

end

def readComplete : Reading (Option Script) := do
  modify fun source => { source with held := none, awaited := [] }
  let script ← readList (16 * (← get).rest.length + 1000) .line none
  match script, (← get).held with
  | .nothing, some .ending => return none
  | script, _ => return some script

end PipDriver.Shell
