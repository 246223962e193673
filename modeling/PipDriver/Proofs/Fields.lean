import Mathlib.Data.List.Basic
import PipDriver.Text

/-!
The stretches of a list between separators, and the list that stretches are put together to.
-/

namespace PipDriver.Text

variable {α : Type} [DecidableEq α]

theorem fields_of_notMem {separator : α} {text : List α} (whole : separator ∉ text) :
    fields separator text = [text] := by
  induction text with
  | nil => rfl
  | cons character rest ih =>
      simp only [List.mem_cons, not_or] at whole
      simp [fields, Ne.symm whole.1, ih whole.2]

theorem fields_append (separator : α) (before after : List α) :
    fields separator (before ++ separator :: after) =
      fields separator before ++ fields separator after := by
  induction before with
  | nil => simp [fields]
  | cons character rest ih =>
      by_cases same : character = separator
      · simp [fields, same, ih]
      · simp only [List.cons_append, fields, same, if_false, ih]
        cases pieces : fields separator rest with
        | nil => exact (fields_ne_nil separator rest pieces).elim
        | cons first others => rfl

theorem fields_append_whole {separator : α} {front rest first : List α} {others : List (List α)}
    (whole : separator ∉ front) (parted : fields separator rest = first :: others) :
    fields separator (front ++ rest) = (front ++ first) :: others := by
  induction front with
  | nil => exact parted
  | cons character more ih =>
      simp only [List.mem_cons, not_or] at whole
      simp [fields, Ne.symm whole.1, ih whole.2]

theorem exists_mem_fields_iff {separator character : α} {text : List α} :
    (∃ field ∈ fields separator text, character ∈ field) ↔ character ∈ text ∧ character ≠ separator := by
  induction text with
  | nil => simp [fields]
  | cons first rest ih =>
      unfold fields
      by_cases cut : first = separator
      · subst cut
        simp only [if_true, List.mem_cons, exists_eq_or_imp, List.not_mem_nil, false_or, ih]
        constructor
        · rintro ⟨member, other⟩
          exact ⟨Or.inr member, other⟩
        · rintro ⟨rfl | member, other⟩
          · exact (other rfl).elim
          · exact ⟨member, other⟩
      · rw [if_neg cut]
        cases split : fields separator rest with
        | nil => exact (fields_ne_nil separator rest split).elim
        | cons field others =>
            rw [split] at ih
            simp only [List.mem_cons, exists_eq_or_imp, or_assoc] at ih ⊢
            rw [ih]
            constructor
            · rintro (rfl | ⟨member, other⟩)
              · exact ⟨Or.inl rfl, cut⟩
              · exact ⟨Or.inr member, other⟩
            · rintro ⟨rfl | member, other⟩
              · exact Or.inl rfl
              · exact Or.inr ⟨member, other⟩

theorem notMem_fields {separator : α} {text field : List α} (member : field ∈ fields separator text) :
    separator ∉ field := by
  induction text generalizing field with
  | nil =>
      simp only [fields, List.mem_singleton] at member
      simp [member]
  | cons character rest ih =>
      by_cases same : character = separator
      · simp only [fields, same, if_true, List.mem_cons] at member
        rcases member with rfl | later
        · simp
        · exact ih later
      · cases pieces : fields separator rest with
        | nil => exact (fields_ne_nil separator rest pieces).elim
        | cons first others =>
            simp only [fields, same, if_false, pieces, List.mem_cons] at member
            rcases member with rfl | later
            · simp [Ne.symm same, ih (by rw [pieces]; exact List.mem_cons_self)]
            · exact ih (by rw [pieces]; exact List.mem_cons_of_mem _ later)

theorem intercalate_fields (separator : α) (text : List α) :
    [separator].intercalate (fields separator text) = text := by
  induction text with
  | nil => simp [fields, List.intercalate]
  | cons character rest ih =>
      obtain ⟨first, others, pieces⟩ := List.exists_cons_of_ne_nil (fields_ne_nil separator rest)
      rw [pieces] at ih
      by_cases same : character = separator
      · subst same
        simp [fields, pieces, List.intercalate_cons_cons, ih]
      · simp only [fields, same, if_false, pieces]
        cases others with
        | nil => simpa [List.intercalate] using ih
        | cons second more =>
            rw [List.intercalate_cons_cons] at ih ⊢
            simp [← ih]

theorem fields_intercalate {separator : α} {parts : List (List α)} (given : parts ≠ [])
    (whole : ∀ part ∈ parts, separator ∉ part) : fields separator ([separator].intercalate parts) = parts := by
  induction parts with
  | nil => exact (given rfl).elim
  | cons first others ih =>
      have lone : fields separator first = [first] := fields_of_notMem (whole first List.mem_cons_self)
      cases others with
      | nil => simpa [List.intercalate] using lone
      | cons second more =>
          have rest := ih (by simp) fun part member => whole part (List.mem_cons_of_mem _ member)
          rw [List.intercalate_cons_cons, List.append_assoc, List.singleton_append, fields_append, lone, rest,
            List.singleton_append]

omit [DecidableEq α] in
theorem intercalate_prefix (separator : α) {part whole : List (List α)} (starts : part <+: whole) :
    [separator].intercalate part <+: [separator].intercalate whole := by
  induction part generalizing whole with
  | nil => simp [List.intercalate]
  | cons first others ih =>
      obtain ⟨more, rfl⟩ := starts
      cases others with
      | nil =>
          cases more with
          | nil => exact List.prefix_refl _
          | cons next after =>
              rw [List.singleton_append, List.intercalate_cons_cons]
              exact ⟨[separator] ++ [separator].intercalate (next :: after), by simp [List.intercalate]⟩
      | cons second rest =>
          have tail := ih (List.prefix_append (second :: rest) more)
          simp only [List.cons_append, List.intercalate_cons_cons] at tail ⊢
          exact (List.prefix_append_right_inj _).mpr tail

end PipDriver.Text
