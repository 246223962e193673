import PipDriver.Process.Tools.Owners
import PipDriver.Proofs.Bytes

/-!
Which words of a command line are options. A dash with something behind it makes a word an option, whatever options the
program knows; every other word is an operand where it stands.
-/

namespace PipDriver

namespace Text

def isDashed : Text → Bool
  | '-' :: _ :: _ => true
  | _ => false

theorem isDashed_iff {word : Text} : word.isDashed = true ↔ ∃ letter rest, word = '-' :: letter :: rest := by
  constructor
  · intro dashed
    unfold isDashed at dashed
    split at dashed
    · exact ⟨_, _, rfl⟩
    · cases dashed
  · rintro ⟨letter, rest, rfl⟩
    rfl

theorem isDashed_cons {first : Char} (other : first ≠ '-') (rest : Text) : isDashed (first :: rest) = false := by
  rw [Bool.eq_false_iff]
  intro dashed
  obtain ⟨_, _, same⟩ := isDashed_iff.mp dashed
  exact other (List.cons.inj same).1

/-- The bytes of a character that is no dash begin with none. -/
theorem charBytes_begins {character : Char} (other : character ≠ '-') :
    ∃ first rest, charBytes character = first :: rest ∧ first ≠ '-' := by
  by_cases ascii : character.toNat < 128
  · exact ⟨character, [], charBytes_of_ascii ascii, other⟩
  · obtain ⟨first, rest, same⟩ := List.exists_cons_of_ne_nil (charBytes_ne_nil character)
    refine ⟨first, rest, same, ?_⟩
    rintro rfl
    have high := high_of_mem_charBytes (by omega) (same ▸ List.mem_cons_self : '-' ∈ charBytes character)
    exact absurd high (by decide)

theorem bytewise_eq_nil_iff {text : Text} : text.bytewise = [] ↔ text = [] := by
  rw [bytewise_eq, List.flatMap_eq_nil_iff]
  constructor
  · intro none
    exact List.eq_nil_iff_forall_not_mem.mpr fun character member => charBytes_ne_nil character (none character member)
  · rintro rfl
    simp

theorem bytewise_dash (rest : Text) : bytewise ('-' :: rest) = '-' :: rest.bytewise := bytewise_cons (by decide) rest

theorem bytewise_begins {character : Char} (other : character ≠ '-') (rest : Text) :
    ∃ first more, bytewise (character :: rest) = first :: more ∧ first ≠ '-' := by
  obtain ⟨first, more, same, plain⟩ := charBytes_begins other
  refine ⟨first, more ++ rest.bytewise, ?_, plain⟩
  rw [bytewise_eq, bytewise_eq, List.flatMap_cons, same, List.cons_append]

@[simp] theorem isDashed_bytewise (word : Text) : word.bytewise.isDashed = word.isDashed := by
  rcases word with _ | ⟨first, rest⟩
  · rw [bytewise_eq_nil_iff.mpr rfl]
  by_cases dash : first = '-'
  · subst dash
    rw [bytewise_dash]
    rcases rest with _ | ⟨second, rest⟩
    · rw [bytewise_eq_nil_iff.mpr rfl]
    · obtain ⟨byte, bytes, same⟩ := List.exists_cons_of_ne_nil
        (mt bytewise_eq_nil_iff.mp (List.cons_ne_nil second rest))
      rw [same]
      rfl
  · obtain ⟨byte, bytes, same, other⟩ := bytewise_begins dash rest
    rw [same, isDashed_cons other, isDashed_cons dash]

theorem bytewise_eq_dash_iff {word : Text} : word.bytewise = ['-'] ↔ word = ['-'] := by
  constructor
  · intro same
    rcases word with _ | ⟨first, rest⟩
    · rw [bytewise_eq_nil_iff.mpr rfl] at same
      cases same
    by_cases dash : first = '-'
    · subst dash
      rw [bytewise_dash] at same
      rw [bytewise_eq_nil_iff.mp (List.cons.inj same).2]
    · obtain ⟨byte, bytes, begins, other⟩ := bytewise_begins dash rest
      exact (other (List.cons.inj (begins.symm.trans same)).1).elim
  · rintro rfl
    rw [bytewise_dash, bytewise_eq_nil_iff.mpr rfl]

end Text

theorem ok_of_map {ε α β : Type} {answer : Except ε α} {change : α → β} {value : β}
    (given : answer.map change = .ok value) : ∃ first, answer = .ok first ∧ change first = value := by
  cases answer with
  | error failure => cases given
  | ok first => exact ⟨first, rfl, Except.ok.inj given⟩

namespace OptionReading

@[simp] theorem operands_withOptions (options : List GivenOption) (reading : OptionReading) :
    (options.foldr withOption reading).operands = reading.operands := by
  induction options with
  | nil => rfl
  | cons option options ih => exact ih

end OptionReading

namespace OptionLetters

variable {letters : OptionLetters} {word : Text} {words rest : List Text} {reading : OptionReading}

theorem readWord_of_operand (plain : word.isDashed = false) (next : Option Text) :
    letters.readWord next word = .ok none := by
  unfold readWord
  split
  · cases plain
  · cases plain
  · rfl

/-- A word that is no option is an operand. -/
theorem read_operand (plain : word.isDashed = false) (rest : List Text) :
    letters.read (word :: rest) = (letters.read rest).map (·.withOperand word) := by
  have single : word ≠ ['-', '-'] := by
    rintro rfl
    cases plain
  rw [read, if_neg single, readWord_of_operand plain]

/-- Behind two dashes all are operands. -/
theorem read_behind_dashes (rest : List Text) : letters.read (['-', '-'] :: rest) = .ok { operands := rest } := by
  rw [read, if_pos rfl]

/-- Words of which none is an option are the operands. -/
theorem read_operands (plain : ∀ word ∈ words, word.isDashed = false) :
    letters.read words = .ok { operands := words } := by
  induction words with
  | nil => rfl
  | cons word rest ih =>
      rw [read_operand (plain word List.mem_cons_self), ih fun other member => plain other (List.mem_cons_of_mem _ member)]
      rfl

/-- A letter that wants a value takes the next word for it, whatever that is. -/
theorem read_valued {letter : Char} (wants : letter ∈ letters.valued) (other : letter ≠ '-') (value : Text)
    (rest : List Text) :
    letters.read (['-', letter] :: value :: rest) = (letters.read rest).map (·.withOption (.value letter value)) := by
  have single : ['-', letter] ≠ ['-', '-'] := by simpa using other
  have taken : letters.readWord (some value) ['-', letter] = .ok (some ([.value letter value], true)) := by
    unfold readWord
    split
    · rename_i same
      exact (other (List.cons.inj (List.cons.inj same).2).1).elim
    · rename_i same
      obtain ⟨-, same⟩ := List.cons.inj same
      obtain ⟨rfl, rfl⟩ := List.cons.inj same
      simp [readCluster, wants]
      rfl
    · rename_i others
      exact (others _ _ rfl).elim
  rw [read, if_neg single, List.head?_cons, taken]
  rfl

theorem readWord_ne_none (dashed : word.isDashed = true) (next : Option Text) :
    letters.readWord next word ≠ .ok none := by
  obtain ⟨first, others, rfl⟩ := Text.isDashed_iff.mp dashed
  unfold readWord
  split
  · rename_i name same
    cases letters.readLong name with
    | error fault => nofun
    | ok answer => rcases answer with ⟨option, _ | wanting⟩ <;> cases next <;> nofun
  · rename_i letter others _ same
    cases letters.readCluster (letter :: others) with
    | error fault => nofun
    | ok answer => rcases answer with ⟨options, _ | wanting⟩ <;> cases next <;> nofun
  · rename_i other
    exact (other first others rfl).elim

/-- An option is no operand. It may end the reading, and it may take the next word, and that is all. -/
theorem read_dashed (dashed : word.isDashed = true) (single : word ≠ ['-', '-'])
    (accepted : letters.read (word :: rest) = .ok reading) :
    reading.operands = [] ∨ ∃ more behind, (more = rest ∨ ∃ value, rest = value :: more) ∧
      letters.read more = .ok behind ∧ reading.operands = behind.operands := by
  rw [read, if_neg single] at accepted
  have goes : ∀ {more : List Text} {options : List GivenOption}, (more = rest ∨ ∃ value, rest = value :: more) →
      ((letters.read more).map fun behind => options.foldr OptionReading.withOption behind) = .ok reading →
      ∃ more behind, (more = rest ∨ ∃ value, rest = value :: more) ∧
        letters.read more = .ok behind ∧ reading.operands = behind.operands := by
    intro more options onward accepted
    obtain ⟨behind, later, rfl⟩ := ok_of_map accepted
    exact ⟨more, behind, onward, later, OptionReading.operands_withOptions options behind⟩
  split at accepted
  · cases accepted
  · rename_i taken
    exact (readWord_ne_none dashed _ taken).elim
  · split at accepted
    · cases accepted
      exact Or.inl rfl
    · exact Or.inr (goes (Or.inl rfl) accepted)
  · split at accepted
    · cases accepted
      exact Or.inl rfl
    · exact Or.inr (goes (Or.inr ⟨_, rfl⟩) accepted)

end OptionLetters

end PipDriver
