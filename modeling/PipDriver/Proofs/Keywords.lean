import PipDriver.Proofs.Parsing

/-!
Lines that a keyword takes over: whatever a shell reads there, it is no simple command.
-/

namespace PipDriver.Shell

namespace Reading

variable {α β : Type}

def Gives (fits : α → Prop) (reading : Reading α) : Prop :=
  ∀ source value after, reading source = .ok (value, after) → fits value

theorem gives_bind {fits : β → Prop} {first : Reading α} {next : α → Reading β}
    (all : ∀ value, Gives fits (next value)) : Gives fits (first >>= next) := by
  intro source value after read
  obtain ⟨between, middle, -, rest⟩ := ok_of_bind read
  exact all between middle value after rest

theorem gives_bind_of {good : α → Prop} {fits : β → Prop} {first : Reading α} {next : α → Reading β}
    (given : Gives good first) (all : ∀ value, good value → Gives fits (next value)) : Gives fits (first >>= next) := by
  intro source value after read
  obtain ⟨between, middle, start, rest⟩ := ok_of_bind read
  exact all between (given source between middle start) middle value after rest

theorem gives_pure {fits : α → Prop} {value : α} (good : fits value) : Gives fits (pure value) := by
  intro source found after read
  cases read
  exact good

theorem gives_fail {fits : α → Prop} (reason : Text) : Gives fits (fail reason) := nofun

end Reading

open Reading

def Script.isSimple : Script → Bool
  | .simple .. => true
  | _ => false

def Script.IsCompound (script : Script) : Prop := script.isSimple = false

theorem readTail_compound {fuel line : Nat} {script : Script} (compound : script.IsCompound) :
    Gives Script.IsCompound (readTail fuel line script) := by
  cases fuel with
  | zero =>
      rw [readTail]
      exact gives_fail _
  | succ fuel =>
      rw [readTail]
      refine gives_bind fun redirections => gives_pure ?_
      split
      · exact compound
      · rfl

theorem readChoice_compound (fuel : Nat) : Gives Script.IsCompound (readChoice fuel) := by
  cases fuel with
  | zero =>
      rw [readChoice]
      exact gives_fail _
  | succ fuel =>
      rw [readChoice]
      refine gives_bind fun condition => gives_bind fun _ => gives_bind fun yes => gives_bind fun token => ?_
      split
      · exact gives_bind fun _ => gives_pure rfl
      · split
        · exact gives_bind fun _ => gives_pure rfl
        · exact gives_bind fun _ => gives_pure rfl

/-- What a keyword begins is no simple command. -/
theorem readCompound_compound (fuel line : Nat) {name : Text} (unbraced : name ≠ "\x7b") :
    Gives Script.IsCompound (readCompound fuel line name) := by
  cases fuel with
  | zero =>
      rw [readCompound]
      exact gives_fail _
  | succ fuel =>
      rw [readCompound]
      simp only [unbraced, if_false]
      -- One case for each keyword that begins a compound command, and one for those that begin none.
      split
      · exact gives_bind_of (readChoice_compound fuel) fun script compound =>
          gives_bind fun _ => readTail_compound compound
      split
      · exact gives_bind fun _ => gives_bind fun _ => gives_bind fun _ => gives_bind fun _ => readTail_compound rfl
      split
      · refine gives_bind fun token => ?_
        split
        · split
          · exact gives_fail _
          · refine gives_bind fun opening => ?_
            split
            · refine gives_bind fun items => gives_bind fun body => gives_bind fun _ => ?_
              exact readTail_compound rfl
            · split
              · refine gives_bind fun _ => gives_bind fun items => gives_bind fun body => gives_bind fun _ => ?_
                exact readTail_compound rfl
              · refine gives_bind fun items => gives_bind fun body => gives_bind fun _ => ?_
                exact readTail_compound rfl
        · exact gives_fail _
      split
      · refine gives_bind fun token => ?_
        split
        · refine gives_bind fun opening => ?_
          split
          · exact gives_bind fun _ => gives_bind fun _ => readTail_compound rfl
          · exact gives_bind fun _ => readTail_compound rfl
        · exact gives_fail _
      · exact gives_fail _

def LinkedTo (first script : Script) : Prop :=
  script = first ∨
    ∃ start last, (script = .both start last ∨ script = .either start last) ∧ (start = first ∨ start.IsCompound)

theorem LinkedTo.of_link {first second script : Script} (linked : LinkedTo second script)
    (link : ∃ last, second = .both first last ∨ second = .either first last) : LinkedTo first script := by
  obtain ⟨last, shape⟩ := link
  rcases linked with rfl | ⟨start, other, same, rfl | compound⟩
  · exact .inr ⟨first, last, shape, .inl rfl⟩
  · refine .inr ⟨start, other, same, .inr ?_⟩
    rcases shape with rfl | rfl <;> rfl
  · exact .inr ⟨start, other, same, .inr compound⟩

theorem readLinks_linked (fuel : Nat) (first : Script) : Gives (LinkedTo first) (readLinks fuel first) := by
  induction fuel generalizing first with
  | zero =>
      rw [readLinks]
      exact gives_fail _
  | succ fuel ih =>
      rw [readLinks]
      refine gives_bind fun token => ?_
      split
      · exact gives_bind fun second source value after read => (ih _ source value after read).of_link ⟨second, .inl rfl⟩
      · split
        · exact gives_bind fun second source value after read => (ih _ source value after read).of_link ⟨second, .inr rfl⟩
        · exact gives_bind fun _ => gives_pure (.inl rfl)

def GrownFrom (first script : Script) : Prop := script = first ∨ ∃ start last, script = .sequence start last

theorem readList_grown (fuel : Nat) (extent : Extent) (sofar : Script) :
    Gives (GrownFrom sofar) (readList fuel extent (some sofar)) := by
  induction fuel generalizing sofar with
  | zero =>
      rw [readList]
      exact gives_fail _
  | succ fuel ih =>
      have sequence : ∀ last, Gives (GrownFrom sofar) (readList fuel extent (some (.sequence sofar last))) := by
        intro last source value after read
        rcases ih _ source value after read with rfl | grown
        · exact .inr ⟨sofar, last, rfl⟩
        · exact .inr grown
      rw [readList]
      refine gives_bind fun token => ?_
      split
      · exact gives_bind fun _ => gives_pure (.inl rfl)
      · exact gives_bind fun _ => gives_bind fun _ => gives_pure (.inl rfl)
      · refine gives_bind fun _ => ?_
        split
        · exact gives_pure (.inl rfl)
        · refine gives_bind fun source => gives_bind fun chain => gives_bind fun separator => ?_
          split
          · exact gives_bind fun _ => gives_bind fun _ => gives_pure (.inr ⟨_, _, rfl⟩)
          · exact gives_bind fun _ => sequence _
          · simp only [appendTo]
            split
            · exact sequence _
            · split
              · exact gives_bind fun _ => gives_bind fun _ => gives_pure (.inr ⟨_, _, rfl⟩)
              · exact gives_bind fun _ => gives_pure (.inr ⟨_, _, rfl⟩)

def IsLineOf (chain script : Script) : Prop := ∃ first, GrownFrom first script ∧ (first = chain ∨ ∃ line, first = .background line chain)

theorem readList_opened {source behind after : Source} {token : Token} {script : Script} {fuel : Nat}
    (taken : readToken fuel .command source = .ok (token, behind)) (opens : token.opens)
    (read : readList (fuel + 1) .line none source = .ok (script, after)) :
    ∃ chain middle, readChain fuel {} (behind.holding token) = .ok (chain, middle) ∧ IsLineOf chain script := by
  rw [readList] at read
  have wanted : ({ Wanted.command with skipsLines := decide (Extent.line ≠ Extent.line) } : Wanted) = .command := rfl
  rw [wanted, Reading.bind_of_ok taken] at read
  have begun : ∀ (chain : Script) (line : Nat) (background : Bool),
      (if background = true then .background line chain else chain) = chain ∨
        ∃ other, (if background = true then .background line chain else chain) = .background other chain := by
    intro chain line background
    cases background
    · exact .inl rfl
    · exact .inr ⟨line, rfl⟩
  have whole : ∀ chain line background,
      IsLineOf chain (appendTo none (if background = true then .background line chain else chain)) :=
    fun chain line background => ⟨_, .inl rfl, begun chain line background⟩
  have longer : ∀ chain line background, Gives (IsLineOf chain)
      (readList fuel .line (some (appendTo none (if background = true then .background line chain else chain)))) :=
    fun chain line background _ _ _ read => ⟨_, readList_grown _ _ _ _ _ _ read, begun chain line background⟩
  rcases opens with ⟨word, rfl⟩ | ⟨name, rfl⟩
  all_goals
    simp only at read
    rw [Reading.bind_of_ok (hold_apply _ _)] at read
    simp at read
    rw [Reading.bind_of_ok (Reading.get_apply _)] at read
    obtain ⟨chain, middle, first, rest⟩ := ok_of_bind read
    refine ⟨chain, middle, first, ?_⟩
    apply (fun (grown : Gives (IsLineOf chain) _) => grown _ _ _ rest)
    refine gives_bind fun separator => ?_
    split
    · exact gives_bind fun _ => gives_bind fun _ => gives_pure (whole _ _ _)
    · exact gives_bind fun _ => longer _ _ _
    · split
      · exact longer _ _ _
      · exact gives_bind fun _ => gives_bind fun _ => gives_pure (whole _ _ _)

theorem readPipeline_keyword {source behind after : Source} {name : Text} {script : Script} {fuel : Nat} {wanted : Wanted}
    (taken : readToken (fuel + 2) wanted source = .ok (.reserved name, behind)) (quiet : behind.IsQuiet)
    (positive : name ≠ "!") (unbraced : name ≠ "\x7b")
    (read : readPipeline (fuel + 3) wanted source = .ok (script, after)) : script.IsCompound := by
  rw [readPipeline, Reading.bind_of_ok taken] at read
  have kept : (Token.reserved name).isReserved ['!'] = false := by
    simpa [Token.isReserved] using positive
  simp only [kept, Bool.not_false, if_true] at read
  rw [Reading.bind_of_ok (hold_apply _ _)] at read
  obtain ⟨first, middle, readFirst, rest⟩ := ok_of_bind read
  have again := readToken_offered .command (fuel + 1) (offers_holding quiet (.reserved name)) (by simp) rfl (by omega)
  rw [readCommand, Reading.bind_of_ok (Reading.get_apply _), Reading.bind_of_ok again] at readFirst
  have compound := readCompound_compound _ _ unbraced _ _ _ readFirst
  obtain ⟨others, last, -, done⟩ := ok_of_bind rest
  cases done
  rw [if_neg Bool.false_ne_true]
  split
  · exact compound
  · rfl

theorem readComplete_chain {text : Text} {token : Token} {behind : Source} {script : Script}
    (taken : readToken (16 * text.length + 999) .command { rest := text } = .ok (token, behind)) (opens : token.opens)
    (reads : Reads text script) :
    ∃ chain middle, readChain (16 * text.length + 999) {} (behind.holding token) = .ok (chain, middle) ∧
      IsLineOf chain script := by
  obtain ⟨after, complete, -⟩ := reads
  change readComplete { rest := text } = _ at complete
  rw [readComplete_eq] at complete
  obtain ⟨found, last, list, rest⟩ := ok_of_bind complete
  obtain ⟨chain, middle, read, line⟩ := readList_opened taken opens list
  refine ⟨chain, middle, read, ?_⟩
  rw [Reading.bind_of_ok (Reading.get_apply _)] at rest
  have same : script = found := by
    cases found with
    | nothing =>
        cases held : last.held with
        | none =>
            simp only [held] at rest
            cases rest
            rfl
        | some token =>
            cases token <;> simp only [held] at rest <;> cases rest <;> rfl
    | _ =>
        cases rest
        rfl
  rw [same]
  exact line

theorem IsLineOf.isCompound {chain script : Script} (line : IsLineOf chain script) (compound : chain.IsCompound) :
    script.IsCompound := by
  obtain ⟨first, rfl | ⟨start, last, rfl⟩, rfl | ⟨line, rfl⟩⟩ := line
  · exact compound
  · rfl
  · rfl
  · rfl

theorem IsLineOf.of_both {chain first second : Script} (line : IsLineOf chain (.both first second)) :
    chain = .both first second := by
  obtain ⟨found, same | ⟨_, _, same⟩, rfl | ⟨_, rfl⟩⟩ := line
  · exact same.symm
  · cases same
  · cases same
  · cases same

theorem LinkedTo.isCompound {first script : Script} (linked : LinkedTo first script) (compound : first.IsCompound) :
    script.IsCompound := by
  obtain rfl | ⟨start, last, rfl | rfl, -⟩ := linked
  · exact compound
  · rfl
  · rfl

theorem keyword_of_plain {name : Text} (plain : isPlain name = true) : name ≠ "!" ∧ name ≠ "\x7b" := by
  constructor
  · rintro rfl
    cases plain
  · rintro rfl
    cases plain

/-- Where a program is a keyword, the line is no simple command. -/
theorem isCompound_of_keyword {program : Text} {arguments : List Text} {script : Script} (plain : isPlain program = true)
    (reserved : program ∈ reservedWords) (reads : Reads (quote program ++ tail arguments) script) : script.IsCompound := by
  have short := length_le_quote program
  have sizes : (quote program ++ tail arguments).length = (quote program).length + (tail arguments).length := by simp
  have offered := offers_word [] program (quiet_start (quote program ++ tail arguments)) (by simp [IsGap])
    (ends_tail_nil arguments) rfl (Nat.le_refl _)
  have taken := readToken_offered .command (16 * (quote program ++ tail arguments).length + 999) offered (by simp) rfl
    (by omega)
  rw [settled_keyword rfl plain reserved] at taken
  obtain ⟨chain, middle, read, line⟩ := readComplete_chain taken (.inr ⟨program, rfl⟩) reads
  refine line.isCompound ?_
  generalize 16 * (quote program ++ tail arguments).length = room at read
  rw [readChain] at read
  obtain ⟨first, between, readFirst, links⟩ := ok_of_bind read
  have again := readToken_offered {} (room + 997) (offers_holding offered.quiet (.reserved program)) (by simp) rfl (by omega)
  have apart := keyword_of_plain plain
  exact (readLinks_linked _ _ _ _ _ links).isCompound
    (readPipeline_keyword again offered.quiet apart.1 apart.2 readFirst)

theorem isCompound_of_keyword_behind {script program : Text} {arguments : List Text} {first second : Script}
    (plain : isPlain program = true) (reserved : program ∈ reservedWords)
    (reads : Reads (quote "." ++ (tail [script] ++ (" && ".toList ++ (quote program ++ tail arguments))))
      (.both first second)) : first.IsCompound ∨ second.IsCompound := by
  generalize whole : quote "." ++ (tail [script] ++ (" && ".toList ++ (quote program ++ tail arguments))) = text at reads
  obtain ⟨room, behind, start, last, sourced, opening⟩ := opening_exists script program arguments whole
  have roomy := opening.roomy
  obtain ⟨chain, middle, read, line⟩ := readComplete_chain opening.dot (opens_word _) reads
  rw [opening.fuel, readChain, Reading.bind_of_ok opening.read,
    readLinks_both (offers_holding opening.quiet (.operator "&&")) (by omega)] at read
  obtain ⟨called, between, readCalled, links⟩ := ok_of_bind read
  have taken := readToken_offered .commandBelow (room + arguments.length + 5) opening.offered (by simp) rfl (by omega)
  rw [settled_keyword rfl plain reserved] at taken
  have apart := keyword_of_plain plain
  have compound := readPipeline_keyword taken opening.offered.quiet apart.1 apart.2 readCalled
  have linked := readLinks_linked _ _ _ _ _ links
  obtain rfl := line.of_both
  rcases linked with same | ⟨start, last, same | same, rfl | begun⟩
  · obtain ⟨rfl, rfl⟩ := Script.both.inj same
    exact .inr compound
  · obtain ⟨rfl, rfl⟩ := Script.both.inj same
    exact .inl rfl
  · obtain ⟨rfl, rfl⟩ := Script.both.inj same
    exact .inl begun
  · cases same
  · cases same

end PipDriver.Shell
