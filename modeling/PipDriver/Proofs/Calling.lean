import PipDriver.Host.Services
import PipDriver.Proofs.Bytes
import PipDriver.Proofs.Keywords

/-!
What a shell calls for the line of a command, as against what is started without one.
-/

namespace PipDriver

namespace Shell

section
variable {α β : Type}

theorem Action.bind_of_ok {action : Action α} {state after : State} {value : α}
    (done : action state = (.ok value, after)) (next : α → Action β) : (action >>= next) state = next value after := by
  change (ExceptT.bind action next) state = _
  simp only [ExceptT.bind, ExceptT.mk, bind, StateT.bind, ExceptT.bindCont]
  have unwrapped : action.run state = (.ok value, after) := done
  simp only [ExceptT.run] at unwrapped
  rw [unwrapped]

end

def Piece.IsTame : Piece → Prop
  | .char character quoted => quoted = true ∨ isNeutral character = true
  | .mark => True
  | _ => False

def Piece.part : Piece → Part
  | .char character quoted => .char character quoted false
  | _ => .mark

def Word.IsTame (word : Word) : Prop := ∀ piece ∈ word, piece.IsTame

theorem isTame_stretch (word : Text) : (stretch word).IsTame := by
  induction word with
  | nil =>
      intro piece member
      obtain rfl := List.mem_singleton.mp member
      trivial
  | cons character others ih =>
      intro piece member
      unfold stretch at member
      split at member
      · simp only [List.mem_cons] at member
        rcases member with rfl | rfl | rfl | within
        · trivial
        · exact .inl rfl
        · trivial
        · exact ih piece within
      · rcases List.mem_cons.mp member with rfl | within
        · exact .inl rfl
        · exact ih piece within

theorem isTame_wordOf (word : Text) : (wordOf word).IsTame := by
  unfold wordOf
  split
  · rename_i plain
    intro piece member
    obtain ⟨character, within, rfl⟩ := List.mem_map.mp member
    exact .inr (List.all_eq_true.mp (isPlain_iff.mp plain).2 character within)
  · intro piece member
    rcases List.mem_cons.mp member with rfl | within
    · trivial
    · exact isTame_stretch word piece within

theorem withHome_tame {word : Word} (tame : word.IsTame) (state : State) : withHome state false word = word := by
  unfold withHome
  split
  · have first := tame (.char '~' false) (by simp)
    rcases first with quoted | neutral
    · cases quoted
    · cases neutral
  · rfl

theorem wordParts_tame {word : Word} (tame : word.IsTame) (runner : Runner) {fuel : Nat} (enough : word.length < fuel)
    (state : State) : wordParts runner fuel true word state = (.ok (word.map Piece.part), state) := by
  induction word generalizing fuel with
  | nil =>
      obtain ⟨fuel, rfl⟩ : ∃ less, fuel = less + 1 := ⟨fuel - 1, by omega⟩
      rw [wordParts]
      rfl
  | cons piece others ih =>
      simp only [List.length_cons] at enough
      obtain ⟨fuel, rfl⟩ : ∃ less, fuel = less + 2 := ⟨fuel - 2, by omega⟩
      have rest := ih (fun other member => tame other (List.mem_cons_of_mem _ member))
        (show others.length < fuel + 1 by omega)
      have here := tame piece List.mem_cons_self
      have single : isAllParameters (piece :: others) = false := by
        unfold isAllParameters
        split
        · rename_i same
          obtain ⟨rfl, rfl⟩ := List.cons.inj same
          exact (tame (.parameter ['@'] .keep true) (by simp)).elim
        · rfl
      have front : pieceParts runner (fuel + 1) true piece state = (.ok [piece.part], state) := by
        cases piece with
        | char character quoted =>
            rw [pieceParts]
            rfl
        | mark =>
            rw [pieceParts]
            rfl
        | _ => exact here.elim
      rw [wordParts]
      simp only [single, Bool.false_and, Bool.false_eq_true, if_false]
      rw [Action.bind_of_ok front, Action.bind_of_ok rest]
      rfl

def Part.isChar : Part → Bool
  | .char .. => true
  | _ => false

theorem foldl_step_tame (separators : Text) (word : Word) (current : List Part) :
    (word.map Piece.part).foldl (Split.step separators) { current := some current } =
      { current := some (((word.map Piece.part).filter Part.isChar).reverse ++ current) } := by
  induction word generalizing current with
  | nil => rfl
  | cons piece others ih =>
      rw [List.map_cons, List.foldl_cons]
      cases piece with
      | char character quoted =>
          have step : Split.step separators { current := some current } (Piece.char character quoted).part =
              { current := some (.char character quoted false :: current) } := rfl
          rw [step, ih]
          simp [Piece.part, List.filter_cons, Part.isChar]
      | _ => exact ih current

/-- A word of which nothing is split is one field, even if it is empty. -/
theorem fieldsOf_tame (separators : Text) {word : Word} (some_ : word ≠ []) :
    fieldsOf separators (word.map Piece.part) = [(word.map Piece.part).filter Part.isChar] := by
  obtain ⟨piece, others, rfl⟩ := List.exists_cons_of_ne_nil some_
  unfold fieldsOf
  have start : Split.step separators {} piece.part = { current := some ([piece.part].filter Part.isChar) } := by
    cases piece <;> rfl
  rw [List.map_cons, List.foldl_cons, start, foldl_step_tame]
  cases piece <;> simp [Piece.part, List.filter_cons, Part.isChar]

theorem isOpen_tame {word : Word} (tame : word.IsTame) (state : State) :
    isOpen (partsPattern state ((word.map Piece.part).filter Part.isChar)) = false := by
  induction word with
  | nil => rfl
  | cons piece others ih =>
      have rest := ih fun other member => tame other (List.mem_cons_of_mem _ member)
      have here := tame piece List.mem_cons_self
      cases piece with
      | char character quoted =>
          have apart : quoted = false → character ∉ "\\*?[".toList := by
            rintro rfl member
            rcases here with quoted | neutral
            · cases quoted
            · have all : ∀ sign ∈ "\\*?[".toList, isNeutral sign = false := forall_of_all (by decide)
              rw [all character member] at neutral
              cases neutral
          change isOpen (partsPattern state (.char character quoted false :: _)) = false
          rw [partsPattern]
          · unfold isOpen at rest ⊢
            rw [List.any_cons, rest]
            cases quoted with
            | true => rfl
            | false =>
                have := apart rfl
                simp at this ⊢
                simp [this]
          · intro next nextQuoted splits more _ slash bare
            exact apart bare (by simp [slash])
      | _ => exact rest

theorem partsText_of_literal {word : Word} {text : Text} (given : word.literal? = some text) :
    ((word.map Piece.part).filter Part.isChar).flatMap Part.text = text := by
  induction word generalizing text with
  | nil =>
      cases given
      rfl
  | cons piece others ih =>
      unfold Word.literal? at given ih
      obtain ⟨texts, all, rfl⟩ := Option.map_eq_some_iff.mp given
      rw [List.mapM_cons] at all
      obtain ⟨first, firstGiven, more⟩ := Option.bind_eq_some_iff.mp all
      obtain ⟨rest, restGiven, done⟩ := Option.bind_eq_some_iff.mp more
      cases done
      have tail : ((others.map Piece.part).filter Part.isChar).flatMap Part.text = rest.flatten :=
        ih (by rw [restGiven]; rfl)
      cases piece with
      | char character quoted =>
          cases firstGiven
          simpa [Piece.part, List.filter_cons, Part.isChar, Part.text] using tail
      | mark =>
          cases firstGiven
          simpa [Piece.part, List.filter_cons, Part.isChar] using tail
      | _ => cases firstGiven

theorem wordOf_ne_nil (word : Text) : wordOf word ≠ [] := by
  unfold wordOf
  split
  · rename_i plain
    simpa using (isPlain_iff.mp plain).1
  · nofun

/-- A written word stands for itself, whatever the shell knows, and nothing happens when it is expanded. -/
theorem fields_wordOf (word : Text) (runner : Runner) {fuel : Nat} (enough : (wordOf word).length < fuel) (state : State) :
    Expansion.fields runner fuel (wordOf word) state = (.ok [word], state) := by
  have tame := isTame_wordOf word
  have read : (get : Action State) state = (.ok state, state) := rfl
  have parts := wordParts_tame tame runner enough state
  rw [Expansion.fields, Action.bind_of_ok read, withHome_tame tame, Action.bind_of_ok parts, Action.bind_of_ok read]
  simp only [fieldsOf_tame state.separators (wordOf_ne_nil word), isOpen_tame tame,
    partsText_of_literal (literal?_wordOf word), List.flatMap_cons, List.flatMap_nil, Bool.not_false, Bool.or_true, if_true]
  rfl

def Expand (words : List Word) (texts : List Text) : Prop :=
  ∀ (runner : Runner) (fuel : Nat) (state : State), (∀ word ∈ words, word.length < fuel) →
    (do return (← words.mapM (Expansion.fields runner fuel)).flatten : Action (List Text)) state = (.ok texts, state)

theorem expand_wordOf (texts : List Text) : Expand (texts.map wordOf) texts := by
  intro runner fuel state enough
  have mapped : (texts.map wordOf).mapM (Expansion.fields runner fuel) state = (.ok (texts.map fun text => [text]), state) := by
    induction texts with
    | nil => rfl
    | cons text others ih =>
        have first := fields_wordOf text runner (enough _ (by simp)) state
        have rest := ih fun word member => enough word (by simp [member])
        rw [List.map_cons, List.mapM_cons, Action.bind_of_ok first, Action.bind_of_ok rest]
        rfl
  rw [Action.bind_of_ok mapped, ← List.flatMap_def, List.flatMap_singleton']
  rfl

/-- A state to expand words in. -/
def someState : State :=
  State.start { disk := {}, programs := [], accounts := [], groups := [] }
    { words := [], folder := [], environment := [] } [] [] []

theorem Expand.unique {words : List Word} {texts others : List Text} (one : Expand words texts)
    (other : Expand words others) : texts = others := by
  have bound : ∀ word ∈ words, word.length < words.flatten.length + 1 := fun word member =>
    Nat.lt_succ_of_le (List.sublist_flatten_of_mem member).length_le
  have same := (one (fun _ => pure []) _ someState bound).symm.trans (other (fun _ => pure []) _ someState bound)
  cases same
  rfl

inductive Calls (texts : List Text) : Option Text → Script → Prop
  | alone {line : Nat} {words : List Word} : Expand words texts → Calls texts none (.simple line [] words [])
  | behind {script : Text} {line below : Nat} {sourcing words : List Word} :
      Expand sourcing [".", script] → Expand words texts →
      Calls texts (some script) (.both (.simple line [] sourcing []) (.simple below [] words []))

theorem IsCall.simple {program : Text} {arguments : List Text} {script : Script} (call : IsCall program arguments script)
    (plain : isAssigned program = false) :
    ∃ line words, script = .simple line [] words [] ∧ Expand words (program :: arguments) := by
  obtain ⟨line, assignments, words, rfl, whole⟩ := call
  rw [plain, if_neg Bool.false_ne_true] at whole
  obtain ⟨rfl, rfl⟩ := whole
  exact ⟨line, _, rfl, expand_wordOf (program :: arguments)⟩

theorem IsCall.assigns {program : Text} {arguments : List Text} {script : Script} (call : IsCall program arguments script)
    (assigned : isAssigned program = true) (line : Nat) (words : List Word) : script ≠ .simple line [] words [] := by
  rintro rfl
  obtain ⟨_, assignments, _, same, whole⟩ := call
  rw [assigned, if_pos rfl] at whole
  obtain ⟨-, rfl, -, -⟩ := Script.simple.inj same
  exact whole rfl

theorem reads_unique {text : Text} {first second : Script} (one : Reads text first) (other : Reads text second) :
    first = second := by
  obtain ⟨after, read, -⟩ := one
  obtain ⟨_, again, -⟩ := other
  rw [read] at again
  cases again
  rfl

theorem assignment?_bare (word : Text) :
    Word.assignment? (word.map fun character => .char character false) =
      match word.drop (word.takeWhile isNameChar).length with
      | '=' :: value =>
        if isName (word.takeWhile isNameChar) then
          some (word.takeWhile isNameChar, value.map fun character => .char character false)
        else none
      | _ => none := by
  have names : ((word.map fun character => Piece.char character false).map fun piece =>
      piece.bare?.filter isNameChar).takeWhile Option.isSome = (word.takeWhile isNameChar).map some := by
    induction word with
    | nil => rfl
    | cons character others ih =>
        by_cases fits : isNameChar character = true
        · simpa [Piece.bare?, Option.filter, fits] using ih
        · simp [Piece.bare?, Option.filter, fits]
  unfold Word.assignment?
  simp only [names, List.length_map, ← List.map_drop, List.filterMap_map]
  have same : List.filterMap (id ∘ some) (word.takeWhile isNameChar) = word.takeWhile isNameChar := List.filterMap_some
  rw [same]
  generalize word.takeWhile isNameChar = name
  cases word.drop name.length with
  | nil => rfl
  | cons character value =>
      by_cases equal : character = '='
      · subst equal
        rfl
      · rw [List.map_cons]
        split
        · rename_i found
          cases found
          exact absurd rfl equal
        · split
          · rename_i found
            cases found
            exact absurd rfl equal
          · rfl

theorem takeWhile_name {name value : Text} (named : isName name = true) :
    (name ++ '=' :: value).takeWhile isNameChar = name := by
  have all : ∀ character ∈ name, isNameChar character = true := by
    intro character member
    cases name with
    | nil => cases member
    | cons first others =>
        simp only [isName, Bool.and_eq_true] at named
        rcases List.mem_cons.mp member with rfl | within
        · simp only [isNameStart, Bool.or_eq_true] at named
          rcases named.1 with letter | line
          · simp [isNameChar, Char.isAlphanum, letter]
          · simp [isNameChar, line]
        · exact List.all_eq_true.mp named.2 character within
  rw [List.takeWhile_append_of_pos all]
  simp [show isNameChar '=' = false by decide]

/-- A shell takes a word for an assignment if it is written as it stands and is a name, an equals sign, and a value. -/
theorem isAssigned_iff (word : Text) : isAssigned word = true ↔
    isPlain word = true ∧ ∃ name value, isName name = true ∧ word = name ++ '=' :: value := by
  unfold isAssigned wordOf
  split
  · rename_i plain
    rw [assignment?_bare]
    constructor
    · intro assigned
      refine ⟨plain, ?_⟩
      split at assigned
      · rename_i value behind
        split at assigned
        · rename_i named
          refine ⟨_, value, named, ?_⟩
          have front := List.prefix_iff_eq_take.mp (List.takeWhile_prefix isNameChar (l := word))
          have whole := List.take_append_drop (word.takeWhile isNameChar).length word
          rw [← front, behind] at whole
          exact whole.symm
        · cases assigned
      · cases assigned
    · rintro ⟨-, name, value, named, rfl⟩
      rw [takeWhile_name named]
      simp [named]
  · rename_i plain
    constructor
    · intro assigned
      cases assigned
    · rintro ⟨same, -⟩
      exact absurd same plain

def IsMistaken (program : Text) : Prop :=
  isPlain program = true ∧
    (program ∈ reservedWords ∨ ∃ name value, isName name = true ∧ program = name ++ '=' :: value)

theorem isMistaken_iff (program : Text) :
    IsMistaken program ↔ (isPlain program = true ∧ program ∈ reservedWords) ∨ isAssigned program = true := by
  rw [isAssigned_iff]
  unfold IsMistaken
  constructor
  · rintro ⟨plain, reserved | assigned⟩
    · exact .inl ⟨plain, reserved⟩
    · exact .inr ⟨plain, assigned⟩
  · rintro (⟨plain, reserved⟩ | ⟨plain, assigned⟩)
    · exact ⟨plain, .inl reserved⟩
    · exact ⟨plain, .inr assigned⟩

theorem calls_alone_iff (called program : Text) (arguments : List Text) :
    (∃ script, Reads (quote program ++ tail arguments) script ∧ Calls (called :: arguments) none script) ↔
      called = program ∧ ¬ IsMistaken program := by
  rw [isMistaken_iff]
  constructor
  · rintro ⟨script, reads, ⟨expand⟩⟩
    by_cases keyword : isPlain program = true ∧ program ∈ reservedWords
    · cases isCompound_of_keyword keyword.1 keyword.2 reads
    · obtain ⟨found, same, call⟩ := reads_call arguments fun plain reserved => keyword ⟨plain, reserved⟩
      by_cases assigned : isAssigned program = true
      · exact (call.assigns assigned _ _ (reads_unique same reads)).elim
      · obtain ⟨_, _, rfl, written⟩ := call.simple (by simpa using assigned)
        obtain ⟨-, -, rfl, -⟩ := Script.simple.inj (reads_unique same reads)
        exact ⟨(List.cons.inj (expand.unique written)).1, not_or.mpr ⟨keyword, assigned⟩⟩
  · rintro ⟨rfl, clear⟩
    obtain ⟨script, reads, call⟩ := reads_call arguments fun plain reserved => clear (.inl ⟨plain, reserved⟩)
    obtain ⟨line, words, rfl, expand⟩ := call.simple (by simpa using fun assigned => clear (.inr assigned))
    exact ⟨_, reads, .alone expand⟩

theorem calls_behind_iff (meant sourced called program : Text) (arguments : List Text) :
    (∃ script, Reads (quote "." ++ (tail [sourced] ++ (" && ".toList ++ (quote program ++ tail arguments)))) script ∧
        Calls (called :: arguments) (some meant) script) ↔
      meant = sourced ∧ called = program ∧ ¬ IsMistaken program := by
  rw [isMistaken_iff]
  constructor
  · rintro ⟨script, reads, calls⟩
    cases calls with
    | behind sources expand =>
        by_cases keyword : isPlain program = true ∧ program ∈ reservedWords
        · rcases isCompound_of_keyword_behind keyword.1 keyword.2 reads with compound | compound <;> cases compound
        · obtain ⟨first, second, same, dot, call⟩ := reads_call_behind sourced arguments
            fun plain reserved => keyword ⟨plain, reserved⟩
          obtain ⟨rfl, rfl⟩ := Script.both.inj (reads_unique same reads)
          by_cases assigned : isAssigned program = true
          · exact (call.assigns assigned _ _ rfl).elim
          · obtain ⟨_, _, simple, written⟩ := call.simple (by simpa using assigned)
            obtain ⟨-, -, rfl, -⟩ := Script.simple.inj simple
            obtain ⟨_, _, above, sourcing⟩ := dot.simple (by decide)
            obtain ⟨-, -, rfl, -⟩ := Script.simple.inj above
            have read := (List.cons.inj (List.cons.inj (sources.unique sourcing)).2).1
            exact ⟨read, (List.cons.inj (expand.unique written)).1, not_or.mpr ⟨keyword, assigned⟩⟩
  · rintro ⟨rfl, rfl, clear⟩
    rename' meant => sourced
    obtain ⟨first, second, reads, dot, call⟩ := reads_call_behind sourced arguments
      fun plain reserved => clear (.inl ⟨plain, reserved⟩)
    obtain ⟨line, words, rfl, expand⟩ := call.simple (by simpa using fun assigned => clear (.inr assigned))
    obtain ⟨above, sourcing, rfl, sources⟩ := dot.simple (by decide)
    exact ⟨_, reads, .behind sources expand⟩

end Shell

namespace Command

open Shell

def processWords (command : Command) : List Text :=
  (Host.words { command := { command with activation := none } }).map Bytes.bytewise

/-- Whether a shell that is given the line of a command reads the script of it, if there is one, and calls the program
with the arguments with which it would be started otherwise. -/
def IsCalledByShell (command : Command) : Prop :=
  ∃ script, Reads command.shellText.bytewise script ∧
    Calls command.processWords (command.activation.map fun path => path.bytes.bytewise) script

theorem processWords_eq (command : Command) :
    command.processWords = command.program.bytes.bytewise :: command.arguments.map Text.bytewise := by
  simp only [processWords, Host.words, List.map_cons, List.map_map]
  rfl

theorem isMistaken_bytewise (program : Text) : IsMistaken program.bytewise ↔ IsMistaken program := by
  unfold IsMistaken
  rw [isPlain_bytewise]
  refine and_congr_right fun plain => ?_
  rw [Text.bytewise_of_ascii fun character member =>
    ascii_of_isNeutral (List.all_eq_true.mp (isPlain_iff.mp plain).2 character member)]

theorem isCalledByShell_iff (command : Command) :
    command.IsCalledByShell ↔ command.IsText ∧ ¬ IsMistaken command.program.text := by
  have line : command.shellText.bytewise = _ := command.shellText_bytewise.trans (shellText_eq command.bytewise)
  unfold IsCalledByShell
  rw [line, ← isMistaken_bytewise]
  have legible {path : Path} : path.bytes.bytewise = path.text.bytewise ↔ path.IsText :=
    eq_comm.trans Path.bytewise_text_iff
  rcases command with ⟨_ | script, program, arguments⟩
  · have whole := calls_alone_iff program.bytes.bytewise program.text.bytewise (arguments.map Text.bytewise)
    simp only [opening, bytewise, Path.text_mk, isText_iff, processWords_eq]
    simpa [legible] using whole
  · have whole := calls_behind_iff script.bytes.bytewise script.text.bytewise program.bytes.bytewise
      program.text.bytewise (arguments.map Text.bytewise)
    simp only [opening, bytewise, Option.map_some, Option.getD_some, List.append_assoc, Path.text_mk, isText_iff,
      processWords_eq]
    simpa [legible, and_assoc] using whole

/-- A shell and a start without one come to the same unless the program is a keyword or looks like an assignment, or
what a reader sees of a path is not the path. -/
theorem shell_calls_program_iff (command : Command) :
    command.IsCalledByShell ↔
      command.IsText ∧ ¬ (isPlain command.program.text = true ∧ (command.program.text ∈ reservedWords ∨
        ∃ name value, isName name = true ∧ command.program.text = name ++ '=' :: value)) :=
  isCalledByShell_iff command

/-- The program of a virtual environment in a folder with an equals sign in its name is never called. -/
theorem shell_assigns_program :
    ¬ IsCalledByShell
      { activation := some "a=b/bin/activate", program := "a=b/bin/pip", arguments := ["install", "six"] } := by
  rw [isCalledByShell_iff]
  exact fun ⟨_, clear⟩ => clear ⟨by decide, .inr ⟨"a", "b/bin/pip", by decide, rfl⟩⟩

end Command

end PipDriver
