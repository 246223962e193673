import PipDriver.Proofs.Entries

/-!
Package specifiers in a joined list. A specifier is written with semicolons for its commas, so that the list can be
cut at its commas, and reading the list gives back the specifiers, whatever blanks stand around the commas.
-/

namespace PipDriver

namespace Text

variable {old new : Char} {text : Text}

theorem trimStart_replaceChar (proper : isBlank old = false) (also : isBlank new = false) (text : Text) :
    (replaceChar old new text).trimStart = replaceChar old new text.trimStart := by
  have same : isBlank ∘ (fun character => if character = old then new else character) = isBlank := by
    funext character
    by_cases replaced : character = old
    · simp [replaced, proper, also]
    · simp [replaced]
  rw [trimStart, replaceChar, List.dropWhile_map, same, trimStart, replaceChar]

theorem trimEnd_replaceChar (proper : isBlank old = false) (also : isBlank new = false) (text : Text) :
    (replaceChar old new text).trimEnd = replaceChar old new text.trimEnd := by
  have turned := trimStart_replaceChar proper also text.reverse
  rw [trimStart, trimStart, replaceChar, replaceChar, List.map_reverse] at turned
  rw [trimEnd, replaceChar, turned, trimEnd, replaceChar, List.map_reverse]

theorem trim_replaceChar (proper : isBlank old = false) (also : isBlank new = false) (text : Text) :
    (replaceChar old new text).trim = replaceChar old new text.trim := by
  rw [trim, trimStart_replaceChar proper also, trimEnd_replaceChar proper also, trim]

theorem notMem_replaceChar (different : new ≠ old) (text : Text) : old ∉ replaceChar old new text := by
  rw [replaceChar, List.mem_map]
  rintro ⟨character, -, same⟩
  by_cases replaced : character = old
  · exact different (by simpa [replaced] using same)
  · simp [replaced] at same

/-- What is put in place of a character can be taken for it again where it was not in the text before. -/
theorem replaceChar_replaceChar (free : new ∉ text) : replaceChar new old (replaceChar old new text) = text := by
  rw [replaceChar, replaceChar, List.map_map]
  refine (List.map_congr_left fun character member => ?_).trans (List.map_id text)
  by_cases replaced : character = old
  · simp [replaced]
  · have other : character ≠ new := by
      rintro rfl
      exact free member
    simp [replaced, other]

end Text

namespace ItemList

/-- A specifier as it is written in a list. -/
def escaped (specifier : Text) : Text := specifier.replaceChar ',' ';'

structure IsSpecifier (specifier : Text) : Prop where
  given : specifier ≠ []
  trimmed : specifier.trim = specifier
  plain : ';' ∉ specifier

def IsField (specifier field : Text) : Prop :=
  ∃ left right, left.allBlank = true ∧ right.allBlank = true ∧ field = left ++ escaped specifier ++ right

variable {specifier field : Text} {specifiers fields : List Text}

theorem isField_escaped (specifier : Text) : IsField specifier (escaped specifier) :=
  ⟨[], [], rfl, rfl, (List.append_nil _).symm⟩

theorem IsSpecifier.trim_escaped (proper : IsSpecifier specifier) : (escaped specifier).trim = escaped specifier := by
  rw [escaped, Text.trim_replaceChar (by decide) (by decide), proper.trimmed]

theorem IsSpecifier.escaped_ne_nil (proper : IsSpecifier specifier) : escaped specifier ≠ [] := by
  simpa [escaped, Text.replaceChar] using proper.given

theorem IsField.trim (written : IsField specifier field) (proper : IsSpecifier specifier) :
    field.trim = escaped specifier := by
  obtain ⟨left, right, idle, also, rfl⟩ := written
  rw [Text.trim_append_blank (List.all_eq_true.mp also), Text.trim_blank_append idle, proper.trim_escaped]

theorem IsField.comma_notMem (written : IsField specifier field) : ',' ∉ field := by
  obtain ⟨left, right, idle, also, rfl⟩ := written
  have plain := Text.notMem_replaceChar (show ';' ≠ ',' by decide) specifier
  simp [Text.comma_notMem_blank idle, Text.comma_notMem_blank also, escaped, plain]

/-- The fields are read as what is written in them. -/
theorem entries_of_written (written : List.Forall₂ IsField specifiers fields)
    (proper : ∀ specifier ∈ specifiers, IsSpecifier specifier) : entries fields = specifiers.map escaped := by
  induction written with
  | nil => rfl
  | @cons specifier field rest others first _ ih =>
      rw [List.forall_mem_cons] at proper
      obtain ⟨own, proper⟩ := proper
      rw [show field :: others = [field] ++ others from rfl, entries_append, entries_singleton, first.trim own,
        if_neg own.escaped_ne_nil, ih proper, List.map_cons, List.singleton_append]

theorem comma_notMem_of_written (written : List.Forall₂ IsField specifiers fields) : ∀ field ∈ fields, ',' ∉ field := by
  induction written with
  | nil => simp
  | cons first _ ih => exact List.forall_mem_cons.mpr ⟨first.comma_notMem, ih⟩

/-- A list of specifiers is no single entry with blanks around it, if there are two or no blanks. -/
theorem not_loose_of_written (written : List.Forall₂ IsField specifiers fields)
    (proper : ∀ specifier ∈ specifiers, IsSpecifier specifier)
    (firm : fields = specifiers.map escaped ∨ 2 ≤ specifiers.length) : ¬Loose ([','].intercalate fields) := by
  rintro ⟨whole, given, padded⟩
  have whole := Text.fields_of_notMem whole
  cases written with
  | nil => exact given rfl
  | @cons specifier field rest others first more =>
      rw [Text.fields_intercalate (List.cons_ne_nil _ _) (comma_notMem_of_written (.cons first more))] at whole
      obtain ⟨-, rfl⟩ := List.cons.inj whole
      cases more
      rcases firm with bare | several
      · obtain ⟨rfl, -⟩ := List.cons.inj bare
        exact padded (by simpa [List.intercalate] using (proper specifier (by simp)).trim_escaped)
      · simp at several

theorem items_joined_of_written (written : List.Forall₂ IsField specifiers fields)
    (proper : ∀ specifier ∈ specifiers, IsSpecifier specifier)
    (firm : fields = specifiers.map escaped ∨ 2 ≤ specifiers.length) :
    (joined ([','].intercalate fields)).items = specifiers.map escaped := by
  rw [items_of_not_loose (not_loose_of_written written proper firm)]
  by_cases empty : fields = []
  · subst empty
    cases written
    rfl
  · rw [Text.fields_intercalate empty (comma_notMem_of_written written), entries_of_written written proper]

theorem items_many_escaped (proper : ∀ specifier ∈ specifiers, IsSpecifier specifier) :
    (many (specifiers.map escaped)).items = specifiers.map escaped := by
  rw [items, List.filter_eq_self]
  intro entry member
  obtain ⟨specifier, among, rfl⟩ := List.mem_map.mp member
  have own := proper specifier among
  have given : (escaped specifier).trim ≠ [] := by
    rw [own.trim_escaped]
    exact own.escaped_ne_nil
  rw [ne_eq, Text.trim_eq_nil_iff] at given
  simpa using given

theorem packages_of_items {list : ItemList} (read : list.items = specifiers.map escaped)
    (proper : ∀ specifier ∈ specifiers, IsSpecifier specifier) : list.packages = specifiers := by
  rw [packages, read, List.map_map]
  refine (List.map_congr_left fun specifier member => ?_).trans (List.map_id specifiers)
  exact Text.replaceChar_replaceChar (proper specifier member).plain

end ItemList

open ItemList (escaped IsSpecifier IsField)

/-- Specifiers that are written with semicolons for their commas are read back from a joined list, with blanks around
its commas or without, and from a list of entries; requests that give them in either way are planned alike. -/
theorem written_specifiers_read_back {specifiers fields : List Text}
    (proper : ∀ specifier ∈ specifiers, IsSpecifier specifier) (written : List.Forall₂ IsField specifiers fields)
    (firm : fields = specifiers.map escaped ∨ 2 ≤ specifiers.length) :
    let line := ItemList.joined ([','].intercalate fields)
    let list := ItemList.many (specifiers.map escaped)
    line.packages = specifiers ∧ list.packages = specifiers ∧ PlannedAlike line list := by
  intro line list
  have joined : line.items = specifiers.map escaped := ItemList.items_joined_of_written written proper firm
  have entries : list.items = specifiers.map escaped := ItemList.items_many_escaped proper
  exact ⟨ItemList.packages_of_items joined proper, ItemList.packages_of_items entries proper,
    plannedAlike_of_items (joined.trans entries.symm)⟩

theorem written_specifiers_read_back_ranges :
    let specifiers : List Text := [("six>=1,<2" : Text), ("seven == 7,!=7.1, <8" : Text)]
    let fields : List Text := [("\tsix>=1;<2" : Text), ("\u00a0 seven == 7;!=7.1; <8\n" : Text)]
    (∀ specifier ∈ specifiers, IsSpecifier specifier) ∧ List.Forall₂ IsField specifiers fields ∧
      2 ≤ specifiers.length ∧ (ItemList.joined ([','].intercalate fields)).packages = specifiers ∧
      PlannedAlike (.joined ([','].intercalate fields)) (.many (specifiers.map escaped)) := by
  intro specifiers fields
  have proper : ∀ specifier ∈ specifiers, IsSpecifier specifier := by
    intro specifier member
    simp only [specifiers, List.mem_cons, List.not_mem_nil, or_false] at member
    rcases member with rfl | rfl
    · exact ⟨by decide, by decide, by decide⟩
    · exact ⟨by decide, by decide, by decide⟩
  have written : List.Forall₂ IsField specifiers fields :=
    .cons ⟨"\t", [], rfl, rfl, rfl⟩ (.cons ⟨"\u00a0 ", "\n", rfl, rfl, rfl⟩ .nil)
  have several : 2 ≤ specifiers.length := by decide
  obtain ⟨back, -, alike⟩ := written_specifiers_read_back proper written (Or.inr several)
  exact ⟨proper, written, several, back, alike⟩

end PipDriver
