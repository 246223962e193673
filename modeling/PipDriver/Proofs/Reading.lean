import PipDriver.Shell.Grammar
import PipDriver.Command

/-!
How the reader of commands goes through a line: readings one after another, blanks that are passed over, and quoted
words, which are read back as the texts that they were written for.
-/

namespace PipDriver.Shell

namespace Reading

variable {α β : Type}

theorem bind_apply (first : Reading α) (next : α → Reading β) (source : Source) :
    (first >>= next) source = match first source with
      | .ok (value, after) => next value after
      | .error misreading => .error misreading := by
  change (StateT.bind first next) source = _
  simp only [StateT.bind, bind, Except.bind]
  cases first source <;> rfl

theorem bind_of_ok {first : Reading α} {source after : Source} {value : α}
    (taken : first source = .ok (value, after)) (next : α → Reading β) :
    (first >>= next) source = next value after := by
  rw [bind_apply, taken]

theorem bind_of_error {first : Reading α} {source : Source} {misreading : Misreading}
    (refused : first source = .error misreading) (next : α → Reading β) :
    (first >>= next) source = .error misreading := by
  rw [bind_apply, refused]

theorem ok_of_bind {first : Reading α} {next : α → Reading β} {source : Source} {result : β × Source}
    (read : (first >>= next) source = .ok result) :
    ∃ value middle, first source = .ok (value, middle) ∧ next value middle = .ok result := by
  rw [bind_apply] at read
  cases given : first source with
  | error misreading => simp [given] at read
  | ok entry =>
      rw [given] at read
      exact ⟨entry.1, entry.2, rfl, read⟩

@[simp] theorem pure_apply (value : α) (source : Source) : (pure value : Reading α) source = .ok (value, source) :=
  rfl

@[simp] theorem get_apply (source : Source) : (get : Reading Source) source = .ok (source, source) := rfl

@[simp] theorem set_apply (source next : Source) : (set next : Reading PUnit) source = .ok (⟨⟩, next) := rfl

@[simp] theorem modify_apply (change : Source → Source) (source : Source) :
    (modify change : Reading PUnit) source = .ok (⟨⟩, change source) := rfl

end Reading

def Source.past (source : Source) (taken rest : Text) : Source :=
  { source with rest, line := source.line + taken.count '\n' }

section
variable {source : Source} {rest : Text}

theorem dropJoins_of_head {first : Char} (other : first ≠ '\\') : dropJoins (first :: rest) = (0, first :: rest) := by
  unfold dropJoins
  split
  · rename_i same
    simp_all
  · rfl

theorem peek_apply (unjoined : dropJoins source.rest = (0, source.rest)) :
    Reading.peek source = .ok (source.rest.head?, source) := by
  simp only [Reading.peek, Reading.bind_apply, Reading.get_apply, unjoined]
  rfl

theorem peek_cons {first : Char} (given : source.rest = first :: rest) (other : first ≠ '\\') :
    Reading.peek source = .ok (some first, source) := by
  rw [peek_apply (by rw [given, dropJoins_of_head other]), given]
  rfl

theorem skip_cons {first : Char} (given : source.rest = first :: rest) :
    Reading.skip source = .ok (⟨⟩, source.past [first] rest) := by
  simp only [Reading.skip, Reading.modify_apply, given, Source.past]
  split
  · rename_i same
    cases same
  · rename_i line
    cases line
    simp
  · rename_i notLine same
    cases same
    have other : first ≠ '\n' := notLine
    simp [other]

theorem takes_cons {wanted : Char} (given : source.rest = wanted :: rest) (other : wanted ≠ '\\') :
    Reading.takes wanted source = .ok (true, source.past [wanted] rest) := by
  rw [Reading.takes, Reading.bind_of_ok (peek_cons given other), if_pos rfl, Reading.bind_of_ok (skip_cons given)]
  rfl

theorem takeWhile_append {fits : Char → Bool} {run : Text} (given : source.rest = run ++ rest)
    (all : ∀ character ∈ run, fits character = true) (ends : ∀ first ∈ rest.head?, fits first = false) :
    Reading.takeWhile fits source = .ok (run, source.past run rest) := by
  have taken : source.rest.takeWhile fits = run := by
    rw [given, List.takeWhile_append_of_pos all]
    cases rest with
    | nil => simp
    | cons first others => simp [ends first (by simp)]
  simp only [Reading.takeWhile, Reading.bind_apply, Reading.get_apply, taken]
  simp [given, Source.past]

@[simp] theorem past_past (taken more final other : Text) :
    (source.past taken other).past more final = source.past (taken ++ more) final := by
  simp [Source.past, Nat.add_assoc]

@[simp] theorem past_rest (taken other : Text) : (source.past taken other).rest = other := rfl

end

def Ends : Text → Prop
  | [] => True
  | first :: _ => first = ' '

def stretch : Text → Word
  | [] => [.mark]
  | character :: rest =>
    if character = '\'' then .mark :: .char character true :: .mark :: stretch rest
    else .char character true :: stretch rest

theorem stretch_append {run : Text} (whole : '\'' ∉ run) (rest : Text) :
    stretch (run ++ rest) = run.map (fun character => .char character true) ++ stretch rest := by
  induction run with
  | nil => rfl
  | cons character others ih =>
      simp only [List.mem_cons, not_or] at whole
      simp [stretch, Ne.symm whole.1, ih whole.2]

theorem flatMap_quoteChar {run : Text} (whole : '\'' ∉ run) : run.flatMap quoteChar = run := by
  induction run with
  | nil => rfl
  | cons character others ih =>
      simp only [List.mem_cons, not_or] at whole
      simp [quoteChar, Ne.symm whole.1, ih whole.2]

section
variable {source : Source} {rest : Text} {fuel : Nat}

theorem readPieces_ends (ends : Ends source.rest) :
    readPieces (fuel + 1) .bare source = .ok ([], source) := by
  rw [readPieces]
  cases given : source.rest with
  | nil =>
      have seen : Reading.peek source = .ok (none, source) := by
        rw [peek_apply (by rw [given]; rfl), given]
        rfl
      rw [Reading.bind_of_ok seen]
      rfl
  | cons first others =>
      rw [given] at ends
      obtain rfl : first = ' ' := ends
      rw [Reading.bind_of_ok (peek_cons given (by decide))]
      rfl

theorem readPieces_run {run : Text} (given : source.rest = '\'' :: (run ++ '\'' :: rest)) (whole : '\'' ∉ run)
    {pieces : Word} {after : Source}
    (read : readPieces fuel .bare (source.past (['\''] ++ run ++ ['\'']) rest) = .ok (pieces, after)) :
    readPieces (fuel + 1) .bare source =
      .ok (.mark :: run.map (fun character => .char character true) ++ .mark :: pieces, after) := by
  rw [readPieces, Reading.bind_of_ok (peek_cons given (by decide))]
  have idle : Mode.bare.isIdle '\'' = false := by decide
  have inside : (Mode.bare.isWord && endsWord '\'') = false := by decide
  simp only [idle, inside, Bool.false_eq_true, if_false]
  rw [Reading.bind_of_ok (skip_cons given)]
  have run_ : ∀ character ∈ run, decide (character ≠ '\'') = true := by
    intro character member
    have other : character ≠ '\'' := by
      rintro rfl
      exact whole member
    simpa using other
  have taken : Reading.takeWhile (fun character => decide (character ≠ '\''))
      (source.past ['\''] (run ++ '\'' :: rest)) = .ok (run, _) := takeWhile_append rfl run_ (by simp)
  simp only [show ('\'' = '\\') = False by decide, if_false, Mode.quotes, Bool.not_false, Bool.and_true, decide_true, if_true]
  rw [Reading.bind_of_ok taken, Reading.bind_of_ok (Reading.get_apply _)]
  simp only [past_past, past_rest, reduceCtorEq, if_false]
  rw [Reading.bind_of_ok (skip_cons rfl), past_past, Reading.bind_of_ok read]
  rfl

theorem readPieces_escaped (given : source.rest = '\\' :: '\'' :: rest) {pieces : Word} {after : Source}
    (read : readPieces fuel .bare (source.past (['\\'] ++ ['\'']) rest) = .ok (pieces, after)) :
    readPieces (fuel + 1) .bare source = .ok (.char '\'' true :: pieces, after) := by
  rw [readPieces]
  have seen : Reading.peek source = .ok (some '\\', source) := by
    rw [peek_apply (by rw [given]; rfl), given]
    rfl
  rw [Reading.bind_of_ok seen]
  have idle : Mode.bare.isIdle '\\' = false := by decide
  have inside : (Mode.bare.isWord && endsWord '\\') = false := by decide
  simp only [idle, inside, Bool.false_eq_true, if_false, if_true]
  rw [Reading.bind_of_ok (skip_cons given), Reading.bind_of_ok (Reading.get_apply _)]
  simp only [past_rest, List.head?_cons]
  rw [Reading.bind_of_ok (skip_cons rfl), past_past]
  rw [Reading.bind_of_ok read]
  rfl

/-- A quoted stretch is read back piece by piece: a run up to the next quote, and the escaped quote behind it. -/
theorem readPieces_stretch (word : Text) (ends : Ends rest)
    (given : source.rest = '\'' :: (word.flatMap quoteChar ++ '\'' :: rest)) (enough : 2 * word.length + 2 ≤ fuel) :
    readPieces fuel .bare source =
      .ok (.mark :: stretch word, source.past ('\'' :: (word.flatMap quoteChar ++ ['\''])) rest) := by
  -- By the length of the word, because a run of it is read in one go.
  induction size : word.length using Nat.strongRecOn generalizing word source fuel with
  | ind length ih =>
      obtain ⟨fuel, rfl⟩ : ∃ less, fuel = less + 2 := ⟨fuel - 2, by omega⟩
      by_cases whole : '\'' ∈ word
      · obtain ⟨run, more, rfl, unquoted⟩ := List.eq_append_cons_of_mem whole
        rw [List.flatMap_append, flatMap_quoteChar unquoted] at given ⊢
        have escaped : source.rest = '\'' :: (run ++ '\'' :: ('\\' :: '\'' :: '\'' ::
            (more.flatMap quoteChar ++ '\'' :: rest))) := by
          simpa [quoteChar] using given
        simp only [List.length_append, List.length_cons] at size enough
        rw [readPieces_run escaped unquoted (readPieces_escaped rfl
          (ih more.length (by omega) more rfl (by omega) rfl))]
        simp [stretch_append unquoted, stretch, quoteChar]
      · rw [flatMap_quoteChar whole] at given ⊢
        rw [readPieces_run given whole (readPieces_ends ends)]
        have split := stretch_append whole []
        rw [List.append_nil] at split
        simp [split, stretch]

/-- What holds of each character of a text is looked up there, not for all characters. -/
theorem forall_of_all {signs : Text} {fits : Char → Prop} [DecidablePred fits]
    (checked : (signs.all fun sign => fits sign) = true) : ∀ sign ∈ signs, fits sign :=
  fun sign member => of_decide_eq_true (List.all_eq_true.mp checked sign member)

theorem isIdle_of_isNeutral {character : Char} (neutral : isNeutral character = true) :
    Mode.bare.isIdle character = true := by
  have special : ∀ sign ∈ "'\"$\\\x60\x7d() \t\n;&|<>".toList, isNeutral sign = false := forall_of_all (by decide)
  have apart : character ∉ "'\"$\\\x60\x7d() \t\n;&|<>".toList := by
    intro member
    simp [special character member] at neutral
  simp only [Mode.isIdle, Mode.isWord, endsWord, isBlankChar]
  simp at apart ⊢
  simp [apart]

/-- A word that means nothing to a shell is read as it stands. -/
theorem readPieces_neutral {word : Text} (ends : Ends rest) (neutral : word.all isNeutral = true)
    (given : source.rest = word ++ rest) (some_ : word ≠ []) :
    readPieces (fuel + 2) .bare source =
      .ok (word.map fun character => .char character false, source.past word rest) := by
  obtain ⟨first, others, rfl⟩ := List.exists_cons_of_ne_nil some_
  have all : ∀ character ∈ first :: others, isNeutral character = true := List.all_eq_true.mp neutral
  have other : first ≠ '\\' := by
    rintro rfl
    exact absurd (all '\\' (by simp)) (by decide)
  rw [readPieces, Reading.bind_of_ok (peek_cons given other)]
  simp only [isIdle_of_isNeutral (all first (by simp)), if_true]
  have stops : ∀ next ∈ rest.head?, Mode.bare.isIdle next = false := by
    intro next member
    cases rest with
    | nil => cases member
    | cons blank others =>
        obtain rfl : blank = ' ' := ends
        obtain rfl := Option.some.inj member
        decide
  rw [Reading.bind_of_ok (takeWhile_append given (fun character member => isIdle_of_isNeutral (all _ member)) stops),
    Reading.bind_of_ok (readPieces_ends (by simpa using ends))]
  simp [Mode.quotes]

end

end PipDriver.Shell
