import PipDriver.Command
import PipDriver.Proofs.Spelling
import PipDriver.Proofs.Tokens

/-!
The command line of a command as a shell takes it apart.
-/

namespace PipDriver

namespace Shell

inductive Lexeme
  | word (text : Text)
  | operator (text : Text)
deriving DecidableEq, Repr

def Piece.literal? : Piece → Option Text
  | .char character _ => some [character]
  | .mark => some []
  | _ => none

def Word.literal? (word : Word) : Option Text := (word.mapM Piece.literal?).map List.flatten

def Token.lexeme? : Token → Option Lexeme
  | .word pieces => pieces.literal?.map .word
  | .operator text => some (.operator text)
  | _ => none

def readTokens (fuel : Nat) : Reading (List Token) := do
  match fuel with
  | 0 => Reading.tooDeep
  | fuel + 1 =>
    match ← readToken fuel {} with
    | .ending => return []
    | token => return token :: (← readTokens fuel)

def lexemes? (text : Text) : Option (List Lexeme) :=
  match (readTokens (16 * text.length + 1000)).run { rest := text } with
  | .ok (tokens, _) => tokens.mapM Token.lexeme?
  | .error _ => none

theorem literal?_cons (text : Text) {piece : Piece} {rest : Text} {word : Word} (first : piece.literal? = some text)
    (others : word.literal? = some rest) : Word.literal? (piece :: word) = some (text ++ rest) := by
  unfold Word.literal? at others ⊢
  obtain ⟨texts, given, rfl⟩ := Option.map_eq_some_iff.mp others
  simp [List.mapM_cons, first, given]

theorem literal?_char {rest : Text} {word : Word} (character : Char) (quoted : Bool)
    (others : word.literal? = some rest) : Word.literal? (.char character quoted :: word) = some (character :: rest) :=
  literal?_cons [character] rfl others

theorem literal?_mark {rest : Text} {word : Word} (others : word.literal? = some rest) :
    Word.literal? (.mark :: word) = some rest :=
  literal?_cons [] rfl others

theorem literal?_stretch (word : Text) : (stretch word).literal? = some word := by
  induction word with
  | nil => rfl
  | cons character others ih =>
      unfold stretch
      split
      · exact literal?_mark (literal?_char character true (literal?_mark ih))
      · exact literal?_char character true ih

theorem literal?_wordOf (word : Text) : (wordOf word).literal? = some word := by
  unfold wordOf
  split
  · rename_i plain
    clear plain
    induction word with
    | nil => rfl
    | cons character others ih => exact literal?_char character false ih
  · exact literal?_mark (literal?_stretch word)

def tail (words : List Text) : Text := words.flatMap fun word => ' ' :: quote word

theorem line_cons (first : Text) (others : List Text) : line (first :: others) = quote first ++ tail others := by
  induction others generalizing first with
  | nil => simp [line, tail, List.intercalate]
  | cons second others ih =>
      have rest := ih second
      simp only [line, List.map_cons, List.intercalate_cons_cons] at rest ⊢
      rw [rest]
      simp [tail]

theorem ends_tail {rest : Text} (words : List Text) (ends : Ends rest) : Ends (tail words ++ rest) := by
  cases words with
  | nil => exact ends
  | cons word others => rfl

theorem ends_nil : Ends [] := trivial

theorem ends_tail_nil (words : List Text) : Ends (tail words) := by
  have ends := ends_tail words ends_nil
  rwa [List.append_nil] at ends

theorem length_le_quote (word : Text) : word.length ≤ (quote word).length := by
  by_cases plain : isPlain word = true
  · exact Nat.le_of_eq (congrArg List.length (quote_of_plain plain).symm)
  · rw [quote_of_not_plain (by simpa using plain)]
    have longer : ∀ text : Text, text.length ≤ (text.flatMap quoteChar).length := by
      intro text
      induction text with
      | nil => simp
      | cons character others ih =>
          have one : 1 ≤ (quoteChar character).length := by
            unfold quoteChar
            split <;> simp
          simp only [List.flatMap_cons, List.length_append, List.length_cons]
          omega
    have := longer word
    simp only [List.length_cons, List.length_append]
    omega

theorem length_le_tail {word : Text} {words : List Text} (member : word ∈ words) :
    word.length ≤ (tail words).length := by
  have within : ' ' :: quote word <:+: tail words := by
    obtain ⟨before, after, rfl⟩ := List.append_of_mem member
    exact ⟨tail before, tail after, by simp [tail]⟩
  have := length_le_quote word
  have := within.length_le
  simp only [List.length_cons] at this
  omega

theorem length_words_le (words : List Text) : words.length ≤ (tail words).length := by
  induction words with
  | nil => exact Nat.le_refl 0
  | cons word others ih =>
      simp only [tail, List.flatMap_cons, List.length_append, List.length_cons] at ih ⊢
      omega

section
variable {source final : Source} {rest : Text} {fuel : Nat} {tokens : List Token}

theorem readTokens_cons {token : Token} {after : Source} {needs : Nat} (offered : Offers needs source token after)
    (sameLine : token ≠ .newline) (more : token ≠ .ending) (settled : token.settled {} = token) (enough : needs < fuel)
    (read : readTokens fuel after = .ok (tokens, final)) :
    readTokens (fuel + 1) source = .ok (token :: tokens, final) := by
  have taken := readToken_offered {} fuel offered sameLine rfl enough
  rw [settled] at taken
  rw [readTokens, Reading.bind_of_ok taken]
  cases token with
  | ending => exact absurd rfl more
  | _ =>
      simp only
      rw [Reading.bind_of_ok read]
      rfl

theorem readTokens_word (gap word : Text) (quiet : source.IsQuiet) (blank : IsGap gap) (ends : Ends rest)
    (given : source.rest = gap ++ (quote word ++ rest)) (enough : 2 * word.length + 4 ≤ fuel)
    (read : readTokens fuel (source.past (gap ++ quote word) rest) = .ok (tokens, final)) :
    readTokens (fuel + 1) source = .ok (.word (wordOf word) :: tokens, final) :=
  readTokens_cons (offers_word gap word quiet blank ends given (Nat.le_refl _)) nofun nofun (settled_word {} nofun) (by omega) read

theorem readTokens_tail (words : List Text) (quiet : source.IsQuiet) (ends : Ends rest)
    (given : source.rest = tail words ++ rest) (enough : ∀ word ∈ words, 2 * word.length + 4 ≤ fuel)
    (read : readTokens fuel (source.past (tail words) rest) = .ok (tokens, final)) :
    readTokens (fuel + words.length) source = .ok (words.map (fun word => .word (wordOf word)) ++ tokens, final) := by
  induction words generalizing source with
  | nil =>
      have same : source.past [] rest = source := by
        simp [Source.past, ← show source.rest = rest from given]
      simpa [tail, same] using read
  | cons word others ih =>
      have first : source.rest = [' '] ++ (quote word ++ (tail others ++ rest)) := by
        rw [given]
        simp [tail]
      refine readTokens_word [' '] word quiet (by simp [IsGap]) (ends_tail others ends) first ?_ ?_
      · have := enough word (by simp)
        change _ ≤ fuel + others.length
        omega
      · refine ih (quiet.past _ _) rfl (fun other member => enough other (by simp [member])) ?_
        rw [past_past]
        simpa [tail] using read

theorem readTokens_ending (quiet : source.IsQuiet) (given : source.rest = []) :
    readTokens (fuel + 3) source = .ok ([], source.past [] []) := by
  have offered := offers_ending [] quiet (by simp [IsGap]) given (Nat.le_refl 1)
  have taken := readToken_offered {} (fuel + 2) offered nofun rfl (by omega)
  rw [readTokens, Reading.bind_of_ok taken]
  rfl

end

inductive Standing
  | bare
  | sign
  | literal
  | escaped
deriving DecidableEq, Repr

inductive Quoting
  | bare
  | literal
  | escaped
deriving DecidableEq, Repr

def standings : Quoting → Text → List (Char × Standing)
  | _, [] => []
  | .bare, character :: rest =>
    if character = '\'' then (character, .sign) :: standings .literal rest
    else if character = '\\' then (character, .sign) :: standings .escaped rest
    else (character, .bare) :: standings .bare rest
  | .literal, character :: rest =>
    if character = '\'' then (character, .sign) :: standings .bare rest
    else (character, .literal) :: standings .literal rest
  | .escaped, character :: rest => (character, .escaped) :: standings .bare rest

/-- The characters that stand on their own and may mean something to a shell. -/
def exposed (text : Text) : Text :=
  (standings .bare text).filterMap fun (character, standing) =>
    if standing = .bare && !isNeutral character then some character else none

def unquoted (text : Text) : Text :=
  (standings .bare text).filterMap fun (character, standing) => if standing = .bare then some character else none

/-- What a shell takes for more than itself where it is not quoted. -/
def specials : Text := " \t\n|&;<>()$`\\\"'*?[]#~!\x7b\x7d^"

theorem not_isNeutral_of_special {character : Char} (special : character ∈ specials) : isNeutral character = false := by
  have excluded : (specials.all fun character => !isNeutral character) = true := by decide
  simpa using List.all_eq_true.mp excluded character special

theorem exposed_eq_filter (text : Text) : exposed text = (unquoted text).filter fun character => !isNeutral character := by
  rw [exposed, unquoted, List.filter_filterMap]
  refine congrArg (fun told => (standings .bare text).filterMap told) (funext fun (character, standing) => ?_)
  by_cases bare : standing = .bare
  · simp [bare, Option.filter]
  · simp [bare]

/-- A neutral character is not special, so what is special and unquoted is exposed. -/
theorem filter_special_unquoted (text : Text) :
    (unquoted text).filter (· ∈ specials) = (exposed text).filter (· ∈ specials) := by
  rw [exposed_eq_filter, List.filter_filter]
  refine List.filter_congr fun character _ => ?_
  by_cases special : character ∈ specials
  · simp [special, not_isNeutral_of_special special]
  · simp [special]

def charStandings (character : Char) : List (Char × Standing) :=
  if character = '\'' then [('\'', .sign), ('\\', .sign), ('\'', .escaped), ('\'', .sign)]
  else [(character, .literal)]

def wordStandings (word : Text) : List (Char × Standing) :=
  if isPlain word then word.map fun character => (character, .bare)
  else ('\'', .sign) :: word.flatMap charStandings ++ [('\'', .sign)]

theorem standings_neutral {word : Text} (neutral : word.all isNeutral = true) (rest : Text) :
    standings .bare (word ++ rest) = word.map (fun character => (character, .bare)) ++ standings .bare rest := by
  induction word with
  | nil => rfl
  | cons character others ih =>
      simp only [List.all_cons, Bool.and_eq_true] at neutral
      have quote_ : character ≠ '\'' := by
        rintro rfl
        exact absurd neutral.1 (by decide)
      have slash : character ≠ '\\' := by
        rintro rfl
        exact absurd neutral.1 (by decide)
      simp [standings, quote_, slash, ih neutral.2]

theorem standings_quote (word rest : Text) :
    standings .bare (quote word ++ rest) = wordStandings word ++ standings .bare rest := by
  unfold wordStandings
  split
  · rename_i plain
    rw [quote_of_plain plain]
    exact standings_neutral (isPlain_iff.mp plain).2 rest
  · rename_i plain
    rw [quote_of_not_plain (by simpa using plain)]
    clear plain
    have inside : standings .literal (word.flatMap quoteChar ++ '\'' :: rest) =
        word.flatMap charStandings ++ ('\'', .sign) :: standings .bare rest := by
      induction word with
      | nil => rfl
      | cons character others ih =>
          simp only [List.flatMap_cons, List.append_assoc]
          by_cases same : character = '\''
          · subst same
            simp [quoteChar, charStandings, standings, ih]
          · simp [quoteChar, charStandings, standings, same, ih]
    simpa [standings] using inside

theorem standing_word {word : Text} {entry : Char × Standing} (member : entry ∈ wordStandings word) :
    (entry.2 = .bare → isNeutral entry.1 = true) ∧ (entry.2 = .escaped → entry.1 = '\'') := by
  unfold wordStandings at member
  split at member
  · rename_i plain
    obtain ⟨character, within, rfl⟩ := List.mem_map.mp member
    exact ⟨fun _ => List.all_eq_true.mp (isPlain_iff.mp plain).2 character within, nofun⟩
  · simp only [List.mem_append, List.mem_cons, List.mem_flatMap, List.not_mem_nil, or_false] at member
    rcases member with (rfl | ⟨character, -, within⟩) | rfl
    · exact ⟨nofun, nofun⟩
    · unfold charStandings at within
      split at within
      · simp only [List.mem_cons, List.not_mem_nil, or_false] at within
        rcases within with rfl | rfl | rfl | rfl <;> exact ⟨nofun, by simp⟩
      · obtain rfl := List.mem_singleton.mp within
        exact ⟨nofun, nofun⟩
    · exact ⟨nofun, nofun⟩

theorem exposed_quote (word rest : Text) : exposed (quote word ++ rest) = exposed rest := by
  unfold exposed
  rw [standings_quote, List.filterMap_append, List.filterMap_eq_nil_iff.mpr, List.nil_append]
  intro entry member
  have stands := standing_word member
  by_cases bare : entry.2 = .bare
  · simp [bare, stands.1 bare]
  · simp [bare]

theorem exposed_cons {character : Char} (special : isNeutral character = false) (other : character ∉ "'\\".toList)
    (rest : Text) : exposed (character :: rest) = character :: exposed rest := by
  simp at other
  simp [exposed, standings, other, special]

theorem exposed_tail (words : List Text) (rest : Text) :
    exposed (tail words ++ rest) = List.replicate words.length ' ' ++ exposed rest := by
  induction words with
  | nil => rfl
  | cons word others ih =>
      have split : tail (word :: others) ++ rest = ' ' :: (quote word ++ (tail others ++ rest)) := by simp [tail]
      rw [split, exposed_cons (by decide) (by decide), exposed_quote, ih]
      rfl

/-- Whether a backslash quotes nothing but single quotes. -/
def EscapesQuotes (text : Text) : Prop := ∀ entry ∈ standings .bare text, entry.2 = .escaped → entry.1 = '\''

theorem escapesQuotes_quote (word : Text) {rest : Text} (others : EscapesQuotes rest) :
    EscapesQuotes (quote word ++ rest) := by
  intro entry member
  rw [standings_quote, List.mem_append] at member
  exact member.elim (fun within => (standing_word within).2) (others entry)

theorem escapesQuotes_cons {character : Char} {rest : Text} (other : character ∉ "'\\".toList)
    (others : EscapesQuotes rest) : EscapesQuotes (character :: rest) := by
  intro entry member
  simp at other
  simp only [standings, other, if_false, List.mem_cons] at member
  rcases member with rfl | within
  · exact nofun
  · exact others entry within

theorem escapesQuotes_tail (words : List Text) {rest : Text} (others : EscapesQuotes rest) :
    EscapesQuotes (tail words ++ rest) := by
  induction words with
  | nil => exact others
  | cons word more ih =>
      have split : tail (word :: more) ++ rest = ' ' :: (quote word ++ (tail more ++ rest)) := by simp [tail]
      rw [split]
      exact escapesQuotes_cons (by decide) (escapesQuotes_quote word ih)

end Shell

namespace Command

open Shell

def lexemes (command : Command) : List Lexeme :=
  (command.activation.map fun script => [.word ".", .word script.text, .operator "&&"]).getD [] ++
    command.words.map .word

def gaps (command : Command) : Text :=
  (command.activation.map fun _ => "  && ".toList).getD [] ++ List.replicate command.arguments.length ' '

def opening (command : Command) : Text :=
  (command.activation.map fun script => quote "." ++ (tail [script.text] ++ " && ".toList)).getD []

theorem shellText_eq (command : Command) :
    command.shellText = command.opening ++ (quote command.program.text ++ tail command.arguments) := by
  rcases command with ⟨_ | script, program, arguments⟩
  · exact line_cons program.text arguments
  · simp only [shellText, opening, words, line_cons]
    simp [tail, show quote ['.'] = ['.'] from quote_of_plain (by decide)]

theorem operator_not_mem_words (sign : Text) (texts : List Text) : Lexeme.operator sign ∉ texts.map Lexeme.word := by
  simp

/-- Whether a reader sees the paths of a command themselves. -/
structure IsText (command : Command) : Prop where
  activation : ∀ script, command.activation = some script → script.IsText
  program : command.program.IsText

theorem isText_iff (command : Command) :
    command.IsText ↔ (∀ script, command.activation = some script → script.IsText) ∧ command.program.IsText :=
  ⟨fun is => ⟨is.activation, is.program⟩, fun ⟨activation, program⟩ => ⟨activation, program⟩⟩

structure ReadsLike (command other : Command) : Prop where
  activation : command.activation.map Path.text = other.activation.map Path.text
  program : command.program.text = other.program.text
  arguments : command.arguments = other.arguments

theorem ReadsLike.eq {command other : Command} (like : ReadsLike command other) (is : command.IsText)
    (also : other.IsText) : command = other := by
  obtain ⟨activation, program, arguments⟩ := command
  obtain ⟨script, tool, others⟩ := other
  obtain ⟨same, named, rfl⟩ := like
  obtain rfl : program = tool := is.program.eq_of_text also.program named
  obtain rfl : activation = script := Path.eq_of_texts is.activation also.activation same
  rfl

theorem readsLike_of_lexemes {command other : Command} (same : command.lexemes = other.lexemes) :
    ReadsLike command other := by
  have apart : ∀ {script program : Text} {texts more : List Text},
      (.word "." :: .word script :: .operator "&&" :: more.map Lexeme.word) ≠ (program :: texts).map Lexeme.word := by
    intro script program texts more equal
    have absent := operator_not_mem_words "&&" (program :: texts)
    rw [← equal] at absent
    simp at absent
  have alike : ∀ {texts more : List Text}, texts.map Lexeme.word = more.map Lexeme.word → texts = more :=
    fun equal => (List.map_inj_right fun _ _ => Lexeme.word.inj).mp equal
  rcases command with ⟨_ | script, program, arguments⟩ <;> rcases other with ⟨_ | found, tool, others⟩
  · obtain ⟨named, rest⟩ := List.cons.inj (alike same)
    exact ⟨rfl, named, rest⟩
  · exact absurd same.symm apart
  · exact absurd same apart
  · simp only [lexemes, Option.map_some, Option.getD_some, List.cons_append, List.nil_append, List.cons.injEq,
      Lexeme.word.injEq, true_and] at same
    obtain ⟨read, more⟩ := same
    obtain ⟨named, rest⟩ := List.cons.inj (alike more)
    exact ⟨congrArg some read, named, rest⟩

theorem exposed_shellText (command : Command) : exposed command.shellText = command.gaps := by
  have words : exposed (quote command.program.text ++ tail command.arguments) =
      List.replicate command.arguments.length ' ' := by
    have := exposed_tail command.arguments []
    rw [List.append_nil] at this
    rw [exposed_quote, this]
    exact List.append_nil _
  rw [shellText_eq]
  unfold opening gaps
  cases command.activation with
  | none => exact words
  | some script =>
      simp only [Option.map_some, Option.getD_some, List.append_assoc]
      rw [exposed_quote, exposed_tail]
      change [' '] ++ exposed (' ' :: '&' :: '&' :: ' ' :: (quote command.program.text ++ _)) = _
      iterate 4 rw [exposed_cons (by decide) (by decide)]
      rw [words]
      rfl

theorem escapesQuotes_shellText (command : Command) : EscapesQuotes command.shellText := by
  have words : EscapesQuotes (quote command.program.text ++ tail command.arguments) := by
    have rest : EscapesQuotes (tail command.arguments ++ []) := escapesQuotes_tail command.arguments nofun
    rw [List.append_nil] at rest
    exact escapesQuotes_quote command.program.text rest
  rw [shellText_eq]
  unfold opening
  cases command.activation with
  | none => exact words
  | some script =>
      simp only [Option.map_some, Option.getD_some, List.append_assoc]
      refine escapesQuotes_quote _ (escapesQuotes_tail _ ?_)
      change EscapesQuotes (' ' :: '&' :: '&' :: ' ' :: (_ ++ _))
      iterate 4 refine escapesQuotes_cons (by decide) ?_
      exact words

def lineTokens (command : Command) : List Token :=
  (command.activation.map fun script =>
      [.word (wordOf "."), .word (wordOf script.text), .operator "&&"]).getD [] ++
    command.words.map fun word => .word (wordOf word)

theorem lexeme?_lineTokens (command : Command) :
    command.lineTokens.mapM Token.lexeme? = some command.lexemes := by
  have one : ∀ word : Text, (Token.word (wordOf word)).lexeme? = some (.word word) := by
    intro word
    simp [Token.lexeme?, literal?_wordOf]
  have words : ∀ words : List Text, (words.map fun word => Token.word (wordOf word)).mapM Token.lexeme? =
      some (words.map .word) := by
    intro words
    induction words with
    | nil => rfl
    | cons word others ih => simp [List.mapM_cons, one, ih]
  unfold lineTokens lexemes
  cases command.activation with
  | none => exact words command.words
  | some script =>
      simp only [Option.map_some, Option.getD_some, List.mapM_append, List.mapM_cons, one, words]
      rfl

theorem readTokens_words (gap program : Text) (arguments : List Text) (fuel : Nat) {source : Shell.Source}
    (quiet : source.IsQuiet) (blank : IsGap gap) (given : source.rest = gap ++ (quote program ++ tail arguments))
    (enough : 2 * source.rest.length + 4 ≤ fuel) :
    ∃ final, readTokens (fuel + arguments.length + 1) source =
      .ok ((program :: arguments).map (fun word => .word (wordOf word)), final) := by
  have short : ∀ word ∈ arguments, 2 * word.length + 4 ≤ fuel := by
    intro word member
    have := length_le_tail member
    simp only [given, List.length_append] at enough
    omega
  have programShort := length_le_quote program
  simp only [given, List.length_append] at enough
  obtain ⟨fuel, rfl⟩ : ∃ less, fuel = less + 3 := ⟨fuel - 3, by omega⟩
  have read := readTokens_tail arguments (quiet.past (gap ++ quote program) (tail arguments)) ends_nil
    (List.append_nil _).symm short (readTokens_ending ((quiet.past _ _).past _ _) rfl)
  rw [List.append_nil] at read
  exact ⟨_, readTokens_word gap program quiet blank (ends_tail_nil arguments) given (by omega) read⟩

theorem readTokens_shellText (command : Command) (fuel : Nat) (enough : 3 * command.shellText.length + 8 ≤ fuel) :
    ∃ final, readTokens fuel { rest := command.shellText } = .ok (command.lineTokens, final) := by
  have start : ∀ text : Text, ({ rest := text } : Shell.Source).IsQuiet := fun _ => ⟨rfl, rfl, rfl, rfl⟩
  rw [shellText_eq] at enough ⊢
  rcases command with ⟨_ | script, program, arguments⟩
  · have few := length_words_le arguments
    simp only [opening, Option.map_none, Option.getD_none, List.nil_append, List.length_append] at enough ⊢
    obtain ⟨less, rfl⟩ : ∃ less, fuel = less + arguments.length + 1 := ⟨fuel - arguments.length - 1, by omega⟩
    exact readTokens_words [] program.text arguments less (start _) (by simp [IsGap]) rfl
      (by simp only [List.length_append]; omega)
  · have few := length_words_le arguments
    have short : script.text.length ≤ (tail [script.text]).length := length_le_tail (by simp)
    have dot : (quote ".").length = 1 := rfl
    have both : (" && ".toList).length = 4 := rfl
    simp only [opening, Option.map_some, Option.getD_some, List.append_assoc, List.length_append, dot, both] at enough ⊢
    obtain ⟨less, rfl⟩ : ∃ less, fuel = less + arguments.length + 4 := ⟨fuel - arguments.length - 4, by omega⟩
    have quiet := start (quote "." ++ (tail [script.text] ++ (" && ".toList ++ (quote program.text ++ tail arguments))))
    have quietScript := quiet.past ([] ++ quote ".")
      (tail [script.text] ++ (" && ".toList ++ (quote program.text ++ tail arguments)))
    have quietBoth := quietScript.past ([' '] ++ quote script.text)
      (" && ".toList ++ (quote program.text ++ tail arguments))
    have quietProgram := quietBoth.past ([' '] ++ "&&".toList) (' ' :: (quote program.text ++ tail arguments))
    obtain ⟨final, read⟩ := readTokens_words [' '] program.text arguments less quietProgram
      (by simp [IsGap]) rfl (by simp only [past_rest, List.length_cons, List.length_append]; omega)
    refine ⟨final, readTokens_word [] "." quiet (by simp [IsGap]) ?_ rfl ?_
      (readTokens_word [' '] script.text quietScript (by simp [IsGap]) ?_ ?_ ?_
        (readTokens_cons (offers_both [' '] _ quietBoth (by simp [IsGap]) rfl (Nat.le_refl 1))
          nofun nofun rfl ?_ read))⟩
    · rfl
    · change 2 * 1 + 4 ≤ _
      omega
    · rfl
    · simp [tail]
    · omega
    · omega

theorem lexemes?_shellText (command : Command) : lexemes? command.shellText = some command.lexemes := by
  obtain ⟨final, read⟩ := readTokens_shellText command (16 * command.shellText.length + 1000) (by omega)
  change (match readTokens _ _ with
    | .ok (tokens, _) => tokens.mapM Token.lexeme?
    | .error _ => none) = _
  rw [read]
  exact lexeme?_lineTokens command

theorem special_of_mem_gaps (command : Command) {character : Char} (among : character ∈ command.gaps) :
    character ∈ specials := by
  have signs : ("  && ".toList.all fun character => character ∈ specials) = true := by decide
  rcases List.mem_append.mp among with script | blank
  · cases given : command.activation with
    | none => simp [given] at script
    | some _ => exact of_decide_eq_true (List.all_eq_true.mp signs character (by simpa [given] using script))
  · rw [(List.mem_replicate.mp blank).2]
    decide

/-- The line of a command is taken apart into its words and, behind a script, the sign between two commands.
Nothing else in it stands without quotes and may mean something. So a command is known from its line as far as a reader
sees it, and known altogether if its paths are text. -/
theorem shellText_spells_command (command : Command) :
    lexemes? command.shellText = some command.lexemes ∧
      exposed command.shellText = command.gaps ∧
      (unquoted command.shellText).filter (· ∈ specials) = command.gaps ∧
      EscapesQuotes command.shellText ∧
      ∀ other : Command, other.shellText = command.shellText →
        ReadsLike other command ∧ (other.IsText → command.IsText → other = command) := by
  refine ⟨lexemes?_shellText command, exposed_shellText command, ?_, escapesQuotes_shellText command, ?_⟩
  · rw [filter_special_unquoted, exposed_shellText, List.filter_eq_self]
    exact fun character among => decide_eq_true (special_of_mem_gaps command among)
  · intro other same
    have read := lexemes?_shellText other
    rw [same, lexemes?_shellText command] at read
    have like := readsLike_of_lexemes (Option.some.inj read).symm
    exact ⟨like, like.eq⟩

end Command

end PipDriver
