import PipDriver.Proofs.Parents

/-!
What a path consists of. Its components are those of its fields behind what it begins with, and a relative path adds
those of its fields to a folder.
-/

namespace PipDriver.Path

open Bytes (slash dot)

def beginning (bytes : Bytes) : List Component :=
  match lead bytes with
  | [slash] => [.root]
  | [dot] => [.current]
  | _ => []

theorem lead_singleton (first : UInt8) :
    lead [first] = if first = slash then [slash] else if first = dot then [dot] else [] := by
  unfold lead
  split <;> simp_all

theorem lead_cons_cons (first second : UInt8) (rest : Bytes) :
    lead (first :: second :: rest) =
      if first = slash then [slash] else if first = dot ∧ second = slash then [dot] else [] := by
  unfold lead
  split <;> simp_all

/-- What stands behind a slash does not change how a path begins. -/
theorem lead_append {bytes rest : Bytes} (given : bytes ≠ [])
    (joint : bytes.getLast? = some slash ∨ rest.head? = some slash) : lead (bytes ++ rest) = lead bytes := by
  obtain ⟨first, others, rfl⟩ := List.exists_cons_of_ne_nil given
  cases others with
  | cons second more => rw [List.cons_append, List.cons_append, lead_cons_cons, lead_cons_cons]
  | nil =>
      rcases joint with same | behind
      · obtain rfl := Option.some.inj same
        rfl
      · obtain ⟨others, rfl⟩ : ∃ others, rest = slash :: others := List.head?_eq_some_iff.mp behind
        rw [List.singleton_append, lead_cons_cons, lead_singleton]
        simp

theorem filterMap_segments (path : Path) :
    path.segments.filterMap segmentComponent = (Text.fields slash path.bytes).filterMap segmentComponent := by
  have begins := leads path.bytes
  unfold segments
  generalize lead path.bytes = start at begins ⊢
  generalize path.bytes = bytes at begins ⊢
  cases begins <;> simp [Text.fields, segmentComponent, isIdle]

theorem components_eq (path : Path) :
    path.components = beginning path.bytes ++ (Text.fields slash path.bytes).filterMap segmentComponent := by
  rw [← filterMap_segments]
  rfl

theorem filterMap_inside {fields : List Bytes} (inside : [dot, dot] ∉ fields) :
    fields.filterMap segmentComponent = (naming fields).map .name := by
  induction fields with
  | nil => rfl
  | cons field rest ih =>
      simp only [List.mem_cons, not_or] at inside
      have kept : segmentComponent field = if isIdle field then none else some (.name field) := by
        simp [segmentComponent, Ne.symm inside.1]
      by_cases idle : isIdle field = true
      · simp [kept, naming, idle, ih inside.2]
      · simp [kept, naming, idle, ih inside.2]

theorem components_join {folder rest : Path} (given : folder.isEmpty = false) (relative : rest.isAbsolute = false) :
    (folder.join rest).components =
      folder.components ++ (Text.fields slash rest.bytes).filterMap segmentComponent := by
  have some_ : folder.bytes ≠ [] := by simpa [isEmpty] using given
  rw [components_eq, components_eq folder]
  by_cases slashed : Bytes.endsWith folder.bytes [slash] = true
  · have joined : (folder.join rest).bytes = folder.bytes ++ rest.bytes := by simp [join, relative, given, slashed]
    have ends := Bytes.endsWith_singleton_iff.mp slashed
    obtain ⟨before, same⟩ := List.getLast?_eq_some_iff.mp ends
    have fields : Text.fields slash (folder.bytes ++ rest.bytes) =
        Text.fields slash before ++ Text.fields slash rest.bytes := by
      rw [same, List.append_assoc, List.singleton_append, Text.fields_append]
    have own : (Text.fields slash folder.bytes).filterMap segmentComponent =
        (Text.fields slash before).filterMap segmentComponent := by
      rw [same, Text.fields_append]
      simp [Text.fields, segmentComponent, isIdle]
    rw [joined, beginning, lead_append some_ (Or.inl ends), fields, List.filterMap_append, own, List.append_assoc]
    rfl
  · have joined : (folder.join rest).bytes = folder.bytes ++ slash :: rest.bytes := by
      simp [join, relative, given, slashed]
    rw [joined, beginning, lead_append some_ (Or.inr rfl), Text.fields_append, List.filterMap_append,
      List.append_assoc]
    rfl

/-- A component that a field stands for is added to a folder as it is. -/
theorem components_join_field {folder : Path} {field : Bytes} {part : Component} (given : folder.isEmpty = false)
    (whole : slash ∉ field) (stands : segmentComponent field = some part) :
    (folder.join ⟨field⟩).components = folder.components ++ [part] ∧ (folder.join ⟨field⟩).isEmpty = false := by
  have relative : (ofBytes field).isAbsolute = false := by
    cases field with
    | nil => rfl
    | cons first rest =>
        have other : slash ≠ first := by
          rintro rfl
          exact whole List.mem_cons_self
        simp [isAbsolute, Bytes.startsWith, List.isPrefixOf, other]
  constructor
  · rw [components_join given relative, Text.fields_of_notMem whole]
    simp [stands]
  · have some_ : folder.bytes ≠ [] := by simpa [isEmpty] using given
    by_cases slashed : Bytes.endsWith folder.bytes [slash] = true
    · simp [join, relative, slashed, isEmpty, some_]
    · simp [join, relative, slashed, isEmpty, some_]

end PipDriver.Path
