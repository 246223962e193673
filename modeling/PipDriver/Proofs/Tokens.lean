import PipDriver.Proofs.Reading

/-!
The tokens of a line of written words: what a word is read as, and where one ends.
-/

namespace PipDriver.Shell

def isPlain (word : Text) : Bool := word ≠ [] && word.all isNeutral

def wordOf (word : Text) : Word :=
  if isPlain word then word.map fun character => .char character false else .mark :: stretch word

theorem quote_of_plain {word : Text} (plain : isPlain word = true) : quote word = word := by
  unfold quote
  exact if_pos plain

theorem quote_of_not_plain {word : Text} (plain : isPlain word = false) :
    quote word = '\'' :: (word.flatMap quoteChar ++ ['\'']) := by
  unfold quote
  exact if_neg (by rw [show (decide (word ≠ []) && word.all isNeutral) = false from plain]; decide)

theorem isPlain_iff {word : Text} : isPlain word = true ↔ word ≠ [] ∧ word.all isNeutral = true := by
  simp [isPlain]

def StartsWord (text : Text) : Prop :=
  ∃ first others, text = first :: others ∧ (first = '\'' ∨ isNeutral first = true)

theorem quote_startsWord (word rest : Text) : StartsWord (quote word ++ rest) := by
  by_cases plain : isPlain word = true
  · rw [quote_of_plain plain]
    obtain ⟨some_, neutral⟩ := isPlain_iff.mp plain
    obtain ⟨first, others, rfl⟩ := List.exists_cons_of_ne_nil some_
    exact ⟨first, others ++ rest, rfl, .inr (List.all_eq_true.mp neutral first (by simp))⟩
  · rw [quote_of_not_plain (by simpa using plain)]
    exact ⟨'\'', _, rfl, .inl rfl⟩

theorem not_mem_of_wordChar {character : Char} (fits : character = '\'' ∨ isNeutral character = true)
    {signs : Text} (apart : ∀ sign ∈ signs, sign ≠ '\'' ∧ isNeutral sign = false) : character ∉ signs := by
  intro member
  rcases fits with rfl | neutral
  · exact (apart _ member).1 rfl
  · simp [(apart _ member).2] at neutral

theorem dropBlanks_startsWord {text : Text} (starts : StartsWord text) : dropBlanks text = (0, text) := by
  obtain ⟨first, others, rfl, fits⟩ := starts
  have apart : first ∉ " \t#\\".toList := not_mem_of_wordChar fits (forall_of_all (by decide))
  simp at apart
  rw [dropBlanks]
  · simp [isBlankChar, apart]
  · intro rest slash
    cases slash
    simp at apart

def IsGap (gap : Text) : Prop := ∀ character ∈ gap, character = ' '

theorem dropBlanks_gap {gap : Text} (blank : IsGap gap) (text : Text) :
    dropBlanks (gap ++ text) = dropBlanks text := by
  induction gap with
  | nil => rfl
  | cons first others ih =>
      obtain rfl : first = ' ' := blank first (by simp)
      rw [List.cons_append, dropBlanks]
      · simpa [isBlankChar] using ih fun character member => blank character (by simp [member])
      · simp

structure Source.IsQuiet (source : Source) : Prop where
  held : source.held = none
  aliases : source.aliases = []
  replaced : source.replaced = []
  awaited : source.awaited = []

theorem Source.IsQuiet.past {source : Source} (quiet : source.IsQuiet) (taken rest : Text) :
    (source.past taken rest).IsQuiet :=
  ⟨quiet.held, quiet.aliases, quiet.replaced, quiet.awaited⟩

section
variable {source : Source} {fuel : Nat} {rest : Text}

theorem readPieces_quote (word : Text) (ends : Ends rest) (given : source.rest = quote word ++ rest)
    (enough : 2 * word.length + 2 ≤ fuel) :
    readPieces fuel .bare source = .ok (wordOf word, source.past (quote word) rest) := by
  by_cases plain : isPlain word = true
  · obtain ⟨some_, neutral⟩ := isPlain_iff.mp plain
    obtain ⟨fuel, rfl⟩ : ∃ less, fuel = less + 2 := ⟨fuel - 2, by omega⟩
    rw [quote_of_plain plain] at given ⊢
    rw [readPieces_neutral ends neutral given some_, wordOf, if_pos plain]
  · rw [quote_of_not_plain (by simpa using plain)] at given ⊢
    rw [readPieces_stretch word ends (by simpa using given) enough, wordOf, if_neg plain]

theorem isDirected_of_ends (ends : Ends rest) :
    (rest.head?.map fun sign => decide (sign = '<') || decide (sign = '>')).getD false = false := by
  cases rest with
  | nil => rfl
  | cons first others =>
      obtain rfl : first = ' ' := ends
      rfl

theorem past_of_dropBlanks {gap text : Text} (given : source.rest = gap ++ text) (blank : IsGap gap)
    (settled : dropBlanks text = (0, text)) :
    ({ source with
      rest := (dropBlanks source.rest).2
      line := source.line + (dropBlanks source.rest).1 } : Source) = source.past gap text := by
  have none_ : gap.count '\n' = 0 := by
    rw [List.count_eq_zero]
    intro member
    exact absurd (blank _ member) (by decide)
  rw [given, dropBlanks_gap blank, settled]
  simp [Source.past, none_]

theorem readFresh_word {gap : Text} (word : Text) (blank : IsGap gap) (ends : Ends rest)
    (given : source.rest = gap ++ (quote word ++ rest)) (enough : 2 * word.length + 2 ≤ fuel) :
    readFresh (fuel + 1) false source =
      .ok (.word (wordOf word), source.past (gap ++ quote word) rest) := by
  have starts := quote_startsWord word rest
  have moved := past_of_dropBlanks given blank (dropBlanks_startsWord starts)
  obtain ⟨first, others, text, fits⟩ := starts
  have apart : first ∉ "\\\n&|;()<>".toList := not_mem_of_wordChar fits (forall_of_all (by decide))
  simp at apart
  have seen : Reading.peek (source.past gap (quote word ++ rest)) = .ok (some first, _) := peek_cons text apart.1
  have read : readPieces fuel .bare (source.past gap (quote word ++ rest)) = .ok (wordOf word, _) :=
    readPieces_quote word ends rfl enough
  rw [readFresh, Reading.bind_of_ok (Reading.modify_apply _ _)]
  simp only [moved]
  rw [Reading.bind_of_ok seen]
  simp [apart]
  rw [Reading.bind_of_ok read, past_past,
    Reading.bind_of_ok (Reading.get_apply _)]
  have undirected := isDirected_of_ends ends
  simp only [past_rest, undirected, Bool.false_eq_true, false_and, if_false]
  generalize wordOf word = pieces
  rcases pieces with _ | ⟨⟨_, _ | _⟩ | _ | _ | _ | _, _ | _⟩ <;> rfl

theorem readFresh_both {gap : Text} (blank : IsGap gap) (given : source.rest = gap ++ ("&&".toList ++ rest)) :
    readFresh (fuel + 1) false source = .ok (.operator "&&".toList, source.past (gap ++ "&&".toList) rest) := by
  have settled : dropBlanks ("&&".toList ++ rest) = (0, "&&".toList ++ rest) := by
    change dropBlanks ('&' :: '&' :: rest) = _
    rw [dropBlanks] <;> simp [isBlankChar]
  rw [readFresh, Reading.bind_of_ok (Reading.modify_apply _ _)]
  simp only [past_of_dropBlanks given blank settled]
  have first : Reading.peek (source.past gap ("&&".toList ++ rest)) = .ok (some '&', _) :=
    peek_cons rfl (by decide)
  have second : Reading.takes '&' (source.past (gap ++ ['&']) ('&' :: rest)) = .ok (true, _) :=
    takes_cons rfl (by decide)
  rw [Reading.bind_of_ok first]
  simp
  rw [Reading.bind_of_ok (skip_cons rfl), past_past, Reading.operator, if_pos (by decide),
    Reading.bind_of_ok second]
  simp

theorem readFresh_ending {gap : Text} (blank : IsGap gap) (given : source.rest = gap) :
    readFresh (fuel + 1) false source = .ok (.ending, source.past gap []) := by
  have settled : dropBlanks [] = (0, []) := by rw [dropBlanks]
  rw [readFresh, Reading.bind_of_ok (Reading.modify_apply _ _)]
  simp only [past_of_dropBlanks (given.trans (List.append_nil gap).symm) blank settled]
  rw [Reading.bind_of_ok (peek_apply rfl)]
  rfl

end

def Token.settled (wanted : Wanted) : Token → Token
  | .word pieces =>
    match pieces.bareText? with
    | none => .word pieces
    | some text => if wanted.keywords && text ∈ reservedWords then .reserved text else .word pieces
  | token => token

inductive Offers (fuel : Nat) : Source → Token → Source → Prop
  | held {after : Source} {token : Token} : after.IsQuiet →
      Offers fuel { after with held := some token } token after
  | fresh {source after : Source} {token : Token} : source.IsQuiet → after.IsQuiet →
      (∀ more, fuel ≤ more → readFresh more false source = .ok (token, after)) → Offers fuel source token after

theorem Offers.quiet {fuel : Nat} {source after : Source} {token : Token} (offered : Offers fuel source token after) :
    after.IsQuiet := by
  cases offered with
  | held quiet => exact quiet
  | fresh _ quiet _ => exact quiet

theorem closeReplaced_quiet {source : Source} (quiet : source.IsQuiet) :
    Reading.closeReplaced source = .ok (false, source) := by
  rcases source with ⟨rest, line, held, aliases, replaced, awaited, documents⟩
  obtain rfl : replaced = [] := quiet.replaced
  rfl

theorem replacement?_quiet {source : Source} (quiet : source.IsQuiet) (text : Text) :
    Reading.replacement? text source = .ok (none, source) := by
  simp only [Reading.replacement?, Reading.bind_apply, Reading.get_apply, quiet.aliases, quiet.replaced]
  rfl

theorem settle_quiet {fuel : Nat} {wanted : Wanted} {source : Source} {token : Token} (quiet : source.IsQuiet)
    (sameLine : token ≠ .newline) :
    (do
      let follows ← Reading.closeReplaced
      match token with
      | .newline =>
        if wanted.skipsLines then
          readDocuments fuel
          readToken fuel wanted
        else return token
      | .word word =>
        match word.bareText? with
        | none => return token
        | some text =>
          if wanted.keywords && text ∈ reservedWords then return .reserved text
          else if wanted.aliases || follows then
            match ← Reading.replacement? text with
            | none => return token
            | some value =>
              Reading.replaceBy text value
              readToken fuel wanted
          else return token
      | _ => return token : Reading Token) source = .ok (token.settled wanted, source) := by
  rw [Reading.bind_of_ok (closeReplaced_quiet quiet)]
  cases token with
  | newline => exact absurd rfl sameLine
  | word word =>
      simp only [Token.settled]
      cases bare : word.bareText? with
      | none => rfl
      | some text =>
          simp only
          split
          · rfl
          · split
            · rw [Reading.bind_of_ok (replacement?_quiet quiet text)]
              rfl
            · rfl
  | reserved name => rfl
  | operator text => rfl
  | redirect channel sign => rfl
  | ending => rfl

theorem readToken_offered (wanted : Wanted) (more : Nat) {fuel : Nat} {source after : Source} {token : Token}
    (offered : Offers fuel source token after) (sameLine : token ≠ .newline) (open_ : wanted.plain = false)
    (enough : fuel < more) : readToken more wanted source = .ok (token.settled wanted, after) := by
  obtain ⟨more, rfl⟩ : ∃ less, more = less + 1 := ⟨more - 1, by omega⟩
  rw [readToken, Reading.bind_of_ok (Reading.get_apply _)]
  cases offered with
  | held quiet =>
      rcases after with ⟨rest, line, held, aliases, replaced, awaited, documents⟩
      obtain rfl : held = none := quiet.held
      exact settle_quiet quiet sameLine
  | fresh quietBefore quiet read =>
      simp only [quietBefore.held, open_]
      rw [Reading.bind_of_ok (read more (by omega))]
      exact settle_quiet quiet sameLine

theorem bareText?_wordOf (word : Text) :
    (wordOf word).bareText? = if isPlain word then some word else none := by
  unfold wordOf
  split
  · rename_i plain
    have mapped : ∀ text : Text,
        Word.bareText? (text.map fun character => .char character false) = some text := by
      intro text
      induction text with
      | nil => rfl
      | cons character others ih =>
          unfold Word.bareText? at ih ⊢
          rw [List.map_cons, List.mapM_cons, ih]
          rfl
    exact mapped word
  · rfl

theorem settled_word {word : Text} (wanted : Wanted)
    (free : wanted.keywords = true → isPlain word = true → word ∉ reservedWords) :
    (Token.word (wordOf word)).settled wanted = .word (wordOf word) := by
  simp only [Token.settled, bareText?_wordOf]
  by_cases plain : isPlain word = true
  · by_cases keywords : wanted.keywords = true
    · simp [plain, keywords, free keywords plain]
    · simp [plain, keywords]
  · simp [plain]

theorem settled_keyword {word : Text} {wanted : Wanted} (keywords : wanted.keywords = true)
    (plain : isPlain word = true) (reserved : word ∈ reservedWords) :
    (Token.word (wordOf word)).settled wanted = .reserved word := by
  simp [Token.settled, bareText?_wordOf, plain, keywords, reserved]

section
variable {source : Source} {fuel : Nat}

theorem offers_word (gap word : Text) {rest : Text} (quiet : source.IsQuiet) (blank : IsGap gap) (ends : Ends rest)
    (given : source.rest = gap ++ (quote word ++ rest)) (enough : 2 * word.length + 3 ≤ fuel) :
    Offers fuel source (.word (wordOf word)) (source.past (gap ++ quote word) rest) := by
  refine .fresh quiet (quiet.past _ _) ?_
  intro more bound
  obtain ⟨more, rfl⟩ : ∃ less, more = less + 1 := ⟨more - 1, by omega⟩
  exact readFresh_word word blank ends given (by omega)

theorem offers_both (gap rest : Text) (quiet : source.IsQuiet) (blank : IsGap gap) (given : source.rest = gap ++ ("&&".toList ++ rest))
    (enough : 1 ≤ fuel) :
    Offers fuel source (.operator "&&".toList) (source.past (gap ++ "&&".toList) rest) := by
  refine .fresh quiet (quiet.past _ _) ?_
  intro more bound
  obtain ⟨more, rfl⟩ : ∃ less, more = less + 1 := ⟨more - 1, by omega⟩
  exact readFresh_both blank given

theorem offers_ending (gap : Text) (quiet : source.IsQuiet) (blank : IsGap gap) (given : source.rest = gap) (enough : 1 ≤ fuel) :
    Offers fuel source .ending (source.past gap []) := by
  refine .fresh quiet (quiet.past _ _) ?_
  intro more bound
  obtain ⟨more, rfl⟩ : ∃ less, more = less + 1 := ⟨more - 1, by omega⟩
  exact readFresh_ending blank given

end

end PipDriver.Shell
