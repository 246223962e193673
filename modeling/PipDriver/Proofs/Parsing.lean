import PipDriver.Proofs.Quoting

/-!
Commands read from a line of written words.
-/

namespace PipDriver.Shell

namespace Source

def holding (source : Source) (token : Token) : Source := { source with held := some token }

end Source

theorem hold_apply (token : Token) (source : Source) : Reading.hold token source = .ok (⟨⟩, source.holding token) :=
  rfl

theorem offers_holding {source : Source} (quiet : source.IsQuiet) (token : Token) :
    Offers 0 (source.holding token) token source :=
  .held quiet

def Token.closes (token : Token) : Prop := token = .ending ∨ token = .operator "&&"

section
variable {source after : Source} {token : Token} {fuel needs : Nat} {wanted : Wanted}

theorem readToken_closing (offered : Offers needs source token after) (closes : token.closes)
    (open_ : wanted.plain = false) (enough : needs < fuel) : readToken fuel wanted source = .ok (token, after) := by
  have sameLine : token ≠ .newline := by
    rintro rfl
    rcases closes with ended | ended <;> cases ended
  have taken := readToken_offered wanted fuel offered sameLine open_ enough
  rcases closes with rfl | rfl <;> exact taken

theorem readSimple_closing (offered : Offers needs source token after) (closes : token.closes) (enough : needs < fuel)
    (line : Nat) (assignments words : List Word) :
    readSimple (fuel + 1) line assignments words [] source =
      .ok (.simple line assignments words [], after.holding token) := by
  rw [readSimple, Reading.bind_of_ok (readToken_closing offered closes rfl enough)]
  rcases closes with rfl | rfl <;> rcases words with _ | ⟨name, _ | ⟨second, others⟩⟩ <;>
    rcases assignments with _ | ⟨first, more⟩ <;> rfl

theorem readSimple_word (word : Text) (offered : Offers needs source (.word (wordOf word)) after) (enough : needs < fuel)
    (line : Nat) (assignments words : List Word) :
    readSimple (fuel + 1) line assignments words [] source =
      if words.isEmpty && (wordOf word).assignment?.isSome then
        readSimple fuel line (assignments ++ [wordOf word]) words [] after
      else readSimple fuel line assignments (words ++ [wordOf word]) [] after := by
  have taken := readToken_offered { aliases := words.isEmpty } fuel offered (by simp) rfl enough
  rw [settled_word { aliases := words.isEmpty } (by simp)] at taken
  rw [readSimple, Reading.bind_of_ok taken]
  simp only
  split <;> rfl

end

/-- The words of a simple command up to the token in front of which it ends. Once it has a name, no word is an
assignment. -/
theorem readSimple_tail {source after : Source} {closing : Token} {fuel : Nat} {rest : Text} (texts : List Text)
    (quiet : source.IsQuiet) (given : source.rest = tail texts ++ rest) (ends : Ends rest)
    (offered : Offers 1 (source.past (tail texts) rest) closing after) (closes : closing.closes)
    (enough : ∀ text ∈ texts, 2 * text.length + 4 ≤ fuel) (some_ : 4 ≤ fuel)
    (line : Nat) (assignments words : List Word) :
    ∃ more named, readSimple (fuel + texts.length) line assignments words [] source =
        .ok (.simple line (assignments ++ more) named [], after.holding closing) ∧
      (words ≠ [] → more = [] ∧ named = words ++ texts.map wordOf) := by
  -- The words read so far are general: only while there are none may the next one be an assignment.
  induction texts generalizing source assignments words with
  | nil =>
      have same : source.past [] rest = source := by
        simp [Source.past, ← show source.rest = rest from given]
      obtain ⟨less, rfl⟩ : ∃ less, fuel = less + 1 := ⟨fuel - 1, by omega⟩
      have read := readSimple_closing offered closes (show 1 < less by omega) line assignments words
      rw [show source.past (tail []) rest = source from same] at read
      exact ⟨[], words, by simpa using read, by simp⟩
  | cons text others ih =>
      have first : source.rest = [' '] ++ (quote text ++ (tail others ++ rest)) := by
        rw [given]
        simp [tail]
      have bound := enough text (by simp)
      have read := readSimple_word text (offers_word [' '] text quiet (by simp [IsGap]) (ends_tail others ends) first
        (Nat.le_refl _)) (show 2 * text.length + 3 < fuel + others.length by omega) line assignments words
      have step := fun assignments words => ih (quiet.past ([' '] ++ quote text) (tail others ++ rest)) rfl
        (by rw [past_past]; simpa [tail] using offered) (fun other member => enough other (by simp [member]))
        assignments words
      change ∃ more named, readSimple (fuel + others.length + 1) line assignments words [] source = _ ∧ _
      rw [read]
      split
      · rename_i assigned
        obtain ⟨more, named, done, -⟩ := step (assignments ++ [wordOf text]) words
        refine ⟨wordOf text :: more, named, by simpa using done, ?_⟩
        intro nonempty
        simp [nonempty] at assigned
      · obtain ⟨more, named, done, all⟩ := step assignments (words ++ [wordOf text])
        obtain ⟨rfl, rfl⟩ := all (by simp)
        refine ⟨[], _, by simpa using done, ?_⟩
        intro nonempty
        exact ⟨rfl, by simp⟩

def isAssigned (word : Text) : Bool := (wordOf word).assignment?.isSome

def IsCall (program : Text) (arguments : List Text) (script : Script) : Prop :=
  ∃ line assignments words, script = .simple line assignments words [] ∧
    if isAssigned program then assignments ≠ [] else assignments = [] ∧ words = (program :: arguments).map wordOf

def Suffices (room : Nat) (words : List Text) : Prop := 4 ≤ room ∧ ∀ word ∈ words, 2 * word.length + 4 ≤ room

section
variable {program : Text} {arguments : List Text} {rest : Text} {source behind after : Source} {closing : Token}
  {room needs : Nat}

theorem readCommand_call (free : isPlain program = true → program ∉ reservedWords)
    (offered : Offers needs source (.word (wordOf program)) behind) (near : needs ≤ room)
    (given : behind.rest = tail arguments ++ rest) (ends : Ends rest)
    (last : Offers 1 (behind.past (tail arguments) rest) closing after) (closes : closing.closes)
    (suffices_ : Suffices room arguments) :
    ∃ script, readCommand (room + arguments.length + 2) .command source = .ok (script, after.holding closing) ∧
      IsCall program arguments script := by
  have taken := readToken_offered .command (room + arguments.length + 1) offered (by simp) rfl (by omega)
  rw [settled_word .command fun _ => free] at taken
  rw [readCommand, Reading.bind_of_ok (Reading.get_apply _), Reading.bind_of_ok taken]
  simp only
  rw [Reading.bind_of_ok (hold_apply _ _), Reading.bind_of_ok (Reading.get_apply _)]
  have roomy : 0 < room + arguments.length := by
    have := suffices_.1
    omega
  have first := fun line =>
    readSimple_word program (offers_holding offered.quiet (.word (wordOf program))) roomy line [] []
  have others := fun line assignments words => readSimple_tail arguments offered.quiet given ends last closes suffices_.2
    suffices_.1 line assignments words
  rw [first]
  unfold IsCall isAssigned
  split
  · rename_i assigned
    obtain ⟨more, named, read, -⟩ := others _ [wordOf program] []
    exact ⟨_, read, _, _, _, rfl, by simp [show (wordOf program).assignment?.isSome = true by simpa using assigned]⟩
  · rename_i plain
    obtain ⟨more, named, read, all⟩ := others _ [] [wordOf program]
    obtain ⟨rfl, rfl⟩ := all (by simp)
    exact ⟨_, read, _, _, _, rfl, by simp [show (wordOf program).assignment?.isSome = false by simpa using plain]⟩

theorem readStages_closing {fuel : Nat} (offered : Offers needs source closing after) (closes : closing.closes)
    (enough : needs < fuel) : readStages (fuel + 1) source = .ok ([], after.holding closing) := by
  rw [readStages, Reading.bind_of_ok (readToken_closing offered closes rfl enough)]
  rcases closes with rfl | rfl <;> rfl

theorem readPipeline_call (wanted : Wanted) (room : Nat) (open_ : wanted.plain = false)
    (free : isPlain program = true → program ∉ reservedWords)
    (offered : Offers needs source (.word (wordOf program)) behind) (near : needs ≤ room)
    (given : behind.rest = tail arguments ++ rest) (ends : Ends rest)
    (last : Offers 1 (behind.past (tail arguments) rest) closing after) (closes : closing.closes)
    (suffices_ : Suffices room arguments) :
    ∃ script, readPipeline (room + arguments.length + 3) wanted source = .ok (script, after.holding closing) ∧
      IsCall program arguments script := by
  have taken := readToken_offered wanted (room + arguments.length + 2) offered (by simp) open_ (by omega)
  rw [settled_word wanted fun _ => free] at taken
  obtain ⟨script, read, call⟩ := readCommand_call free (offers_holding offered.quiet (.word (wordOf program)))
    (Nat.zero_le room) given ends last closes suffices_
  refine ⟨script, ?_, call⟩
  rw [readPipeline, Reading.bind_of_ok taken]
  have unreserved : (Token.word (wordOf program)).isReserved ['!'] = false := rfl
  simp only [unreserved, Bool.not_false, if_true]
  rw [Reading.bind_of_ok (hold_apply _ _), Reading.bind_of_ok read,
    Reading.bind_of_ok (readStages_closing (offers_holding last.quiet closing) closes (by omega))]
  rfl

end

theorem readLinks_ending {source after : Source} {fuel needs : Nat} (offered : Offers needs source .ending after)
    (enough : needs < fuel) (first : Script) :
    readLinks (fuel + 1) first source = .ok (first, after.holding .ending) := by
  rw [readLinks, Reading.bind_of_ok (readToken_closing offered (.inl rfl) rfl enough)]
  rfl

theorem readLinks_both {source after : Source} {fuel needs : Nat} (offered : Offers needs source (.operator "&&") after)
    (enough : needs < fuel) (first : Script) :
    readLinks (fuel + 1) first source =
      (readPipeline fuel .commandBelow >>= fun second => readLinks fuel (.both first second)) after := by
  rw [readLinks, Reading.bind_of_ok (readToken_closing offered (.inr rfl) rfl enough)]
  rfl

theorem readDocuments_none {source : Source} {fuel : Nat} (none_ : source.awaited = []) :
    readDocuments (fuel + 1) source = .ok (⟨⟩, source) := by
  rw [readDocuments, Reading.bind_of_ok (Reading.get_apply _)]
  simp only [none_]
  rfl

def Token.opens (token : Token) : Prop := (∃ word, token = .word word) ∨ ∃ name, token = .reserved name

/-- A chain of commands is the whole list if the text ends behind it. -/
theorem readList_chain {source behind after : Source} {token : Token} {chain : Script} {fuel : Nat}
    (taken : readToken fuel .command source = .ok (token, behind)) (opens : token.opens)
    (read : readChain fuel {} (behind.holding token) = .ok (chain, after.holding .ending)) (quiet : after.IsQuiet)
    (some_ : 0 < fuel) :
    readList (fuel + 1) .line none source = .ok (chain, after.holding .ending) := by
  have ending : readToken fuel {} (after.holding .ending) = .ok (.ending, after) :=
    readToken_closing (offers_holding quiet .ending) (.inl rfl) rfl some_
  obtain ⟨less, rfl⟩ : ∃ less, fuel = less + 1 := ⟨fuel - 1, by omega⟩
  rw [readList]
  have wanted : ({ Wanted.command with skipsLines := decide (Extent.line ≠ Extent.line) } : Wanted) = .command := rfl
  rw [wanted, Reading.bind_of_ok taken]
  rcases opens with ⟨word, rfl⟩ | ⟨name, rfl⟩
  all_goals
    simp only
    rw [Reading.bind_of_ok (hold_apply _ _)]
    simp
    rw [Reading.bind_of_ok (Reading.get_apply _), Reading.bind_of_ok read, Reading.bind_of_ok ending]
    simp only
    rw [Reading.bind_of_ok (readDocuments_none quiet.awaited)]
    rfl

def Reads (text : Text) (script : Script) : Prop :=
  ∃ after, readComplete.run { rest := text } = .ok (some script, after) ∧ after.rest = []

theorem readComplete_eq (text : Text) :
    readComplete { rest := text } = (do
      let script ← readList (16 * text.length + 1000) .line none
      match script, (← get).held with
      | .nothing, some .ending => return none
      | script, _ => return some script) { rest := text } := by
  unfold readComplete
  refine (Reading.bind_of_ok (Reading.modify_apply _ _) _).trans ?_
  exact Reading.bind_of_ok (Reading.get_apply _) _

/-- A chain of commands is the whole text if the text ends behind it. -/
theorem reads_of_chain {text : Text} {token : Token} {behind after : Source} {chain : Script} (some_ : chain ≠ .nothing)
    (taken : readToken (16 * text.length + 999) .command { rest := text } = .ok (token, behind)) (opens : token.opens)
    (read : readChain (16 * text.length + 999) {} (behind.holding token) = .ok (chain, after.holding .ending))
    (quiet : after.IsQuiet) (whole : after.rest = []) : Reads text chain := by
  refine ⟨after.holding .ending, ?_, whole⟩
  change readComplete { rest := text } = _
  rw [readComplete_eq, Reading.bind_of_ok (readList_chain taken opens read quiet (by omega)),
    Reading.bind_of_ok (Reading.get_apply _)]
  cases chain <;> first | rfl | exact absurd rfl some_

theorem suffices_of_length {words : List Text} {room : Nat} (enough : 2 * (tail words).length + 4 ≤ room) :
    Suffices room words := by
  refine ⟨by omega, ?_⟩
  intro word member
  have := length_le_tail member
  omega

theorem quiet_start (text : Text) : ({ rest := text } : Source).IsQuiet := ⟨rfl, rfl, rfl, rfl⟩

theorem opens_word (word : Word) : (Token.word word).opens := .inl ⟨word, rfl⟩

theorem IsCall.ne_nothing {program : Text} {arguments : List Text} {script : Script}
    (call : IsCall program arguments script) : script ≠ .nothing := by
  rintro rfl
  obtain ⟨line, assignments, words, same, -⟩ := call
  cases same

section
variable {program : Text} {arguments : List Text} {source behind : Source} {needs : Nat}

theorem readPipeline_last (wanted : Wanted) (room : Nat) (open_ : wanted.plain = false)
    (free : isPlain program = true → program ∉ reservedWords)
    (offered : Offers needs source (.word (wordOf program)) behind) (near : needs ≤ room)
    (given : behind.rest = tail arguments) (enough : 2 * (tail arguments).length + 4 ≤ room) :
    ∃ script, ∃ final : Source,
      readPipeline (room + arguments.length + 3) wanted source = .ok (script, final.holding .ending) ∧
      final.IsQuiet ∧ final.rest = [] ∧ IsCall program arguments script := by
  have last := offers_ending [] (offered.quiet.past (tail arguments) []) (by simp [IsGap]) rfl (Nat.le_refl 1)
  have whole : behind.rest = tail arguments ++ [] := by rw [given, List.append_nil]
  obtain ⟨script, read, call⟩ := readPipeline_call wanted room open_ free offered near whole ends_nil last
    (.inl rfl) (suffices_of_length enough)
  exact ⟨script, _, read, last.quiet, rfl, call⟩

end

/-- A program that is no keyword is read as a simple command with its arguments. -/
theorem reads_call {program : Text} (arguments : List Text) (free : isPlain program = true → program ∉ reservedWords) :
    ∃ script, Reads (quote program ++ tail arguments) script ∧ IsCall program arguments script := by
  have few := length_words_le arguments
  have short := length_le_quote program
  have sizes : (quote program ++ tail arguments).length = (quote program).length + (tail arguments).length := by simp
  obtain ⟨room, fuel⟩ : ∃ room, 16 * (quote program ++ tail arguments).length + 999 = room + arguments.length + 4 :=
    ⟨16 * (quote program ++ tail arguments).length + 995 - arguments.length, by omega⟩
  have offered := offers_word [] program (quiet_start (quote program ++ tail arguments)) (by simp [IsGap])
    (ends_tail_nil arguments) rfl (Nat.le_refl _)
  have taken := readToken_offered .command (16 * (quote program ++ tail arguments).length + 999) offered (by simp) rfl
    (by omega)
  rw [settled_word .command fun _ => free] at taken
  obtain ⟨script, final, read, quiet, whole, call⟩ := readPipeline_last {} room rfl free
    (offers_holding offered.quiet (.word (wordOf program))) (Nat.zero_le room) rfl (by omega)
  refine ⟨script, reads_of_chain call.ne_nothing taken (opens_word _) ?_ quiet whole, call⟩
  rw [fuel, readChain, Reading.bind_of_ok read]
  exact readLinks_ending (offers_holding quiet .ending) (by omega) script

structure Outset (script program : Text) (arguments : List Text) (text : Text) (room : Nat) (behind start last : Source)
    (first : Script) : Prop where
  fuel : 16 * text.length + 999 = room + arguments.length + 8
  roomy : 2 * program.length + 2 * (tail arguments).length + 4 ≤ room
  dot : readToken (16 * text.length + 999) .command { rest := text } = .ok (.word (wordOf "."), behind)
  read : readPipeline (room + arguments.length + 7) {} (behind.holding (.word (wordOf "."))) =
    .ok (first, start.holding (.operator "&&"))
  call : IsCall "." [script] first
  quiet : start.IsQuiet
  offered : Offers (2 * program.length + 3) start (.word (wordOf program)) last
  rest : last.rest = tail arguments

theorem opening_exists (script program : Text) (arguments : List Text) {text : Text}
    (whole : quote "." ++ (tail [script] ++ (" && ".toList ++ (quote program ++ tail arguments))) = text) :
    ∃ room behind start last first, Outset script program arguments text room behind start last first := by
  have few := length_words_le arguments
  have short := length_le_quote program
  have sizes : text.length = 5 + (tail [script]).length + (quote program).length + (tail arguments).length := by
    have dot : (quote ".").length = 1 := rfl
    have both : (" && ".toList).length = 4 := rfl
    simp only [← whole, List.length_append, dot, both]
    omega
  obtain ⟨room, fuel⟩ : ∃ room, 16 * text.length + 999 = room + arguments.length + 8 :=
    ⟨16 * text.length + 991 - arguments.length, by omega⟩
  have joint : Ends (" && ".toList ++ (quote program ++ tail arguments)) := rfl
  have dot := offers_word [] "." (quiet_start text) (by simp [IsGap]) (ends_tail [script] joint) (by simp [← whole])
    (Nat.le_refl _)
  have both := offers_both [' '] (' ' :: (quote program ++ tail arguments))
    (dot.quiet.past (tail [script]) (" && ".toList ++ (quote program ++ tail arguments))) (by simp [IsGap]) rfl (Nat.le_refl 1)
  have dotFree : isPlain "." = true → ".".toList ∉ reservedWords := fun _ => by decide
  have single : ".".toList.length = 1 := rfl
  have taken := readToken_offered .command (16 * text.length + 999) dot (by simp) rfl (by omega)
  rw [settled_word .command fun _ => dotFree] at taken
  obtain ⟨first, read, call⟩ := readPipeline_call {} (room + arguments.length + 3) rfl dotFree
    (offers_holding dot.quiet (.word (wordOf "."))) (Nat.zero_le _) rfl rfl both (.inr rfl) (suffices_of_length (by omega))
  have startFuel : room + arguments.length + 3 + [script].length + 3 = room + arguments.length + 7 := rfl
  rw [startFuel] at read
  exact ⟨room, _, _, _, first,
    { fuel, roomy := by omega, dot := taken, read, call, quiet := both.quiet
      offered := offers_word [' '] program both.quiet (by simp [IsGap]) (ends_tail_nil arguments) rfl (Nat.le_refl _)
      rest := rfl }⟩

/-- Behind a script, a program that is no keyword is read as the second of two simple commands. -/
theorem reads_call_behind (script : Text) {program : Text} (arguments : List Text)
    (free : isPlain program = true → program ∉ reservedWords) :
    ∃ first second, Reads (quote "." ++ (tail [script] ++ (" && ".toList ++ (quote program ++ tail arguments))))
        (.both first second) ∧ IsCall "." [script] first ∧ IsCall program arguments second := by
  generalize whole : quote "." ++ (tail [script] ++ (" && ".toList ++ (quote program ++ tail arguments))) = text
  obtain ⟨room, behind, start, last, first, opening⟩ := opening_exists script program arguments whole
  have roomy := opening.roomy
  obtain ⟨second, final, read, quiet, ended, call⟩ := readPipeline_last .commandBelow (room + 3) rfl free
    opening.offered (by omega) opening.rest (by omega)
  refine ⟨first, second, reads_of_chain (by simp) opening.dot (opens_word _) ?_ quiet ended, opening.call, call⟩
  have lastFuel : room + 3 + arguments.length + 3 = room + arguments.length + 6 := by omega
  rw [lastFuel] at read
  rw [opening.fuel, readChain, Reading.bind_of_ok opening.read,
    readLinks_both (offers_holding opening.quiet (.operator "&&")) (by omega), Reading.bind_of_ok read]
  exact readLinks_ending (offers_holding quiet .ending) (by omega) _

end PipDriver.Shell
