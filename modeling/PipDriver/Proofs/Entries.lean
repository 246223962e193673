import PipDriver.Proofs.Eggs
import PipDriver.Proofs.Parents

/-!
Entries of joined lists. A joined text is read as the fields between its commas, without the blanks around them and
without the fields that are blank, except that a single entry keeps the blanks around it.
-/

namespace PipDriver

namespace Text

variable {text blank left right : Text}

theorem trim_blank_append (idle : left.allBlank = true) (text : Text) : trim (left ++ text) = trim text := by
  rw [allBlank, List.all_eq_true] at idle
  rw [trim, trimStart, List.dropWhile_append_of_pos idle, trim, trimStart]

theorem comma_notMem_blank (idle : blank.allBlank = true) : ',' ∉ blank := by
  intro member
  rw [allBlank, List.all_eq_true] at idle
  exact absurd (idle ',' member) (by decide)

theorem comma_notMem_trim (plain : ',' ∉ text) : ',' ∉ text.trim := fun member =>
  plain ((trim_isInfix text).subset member)

theorem trim_trim (text : Text) : trim (trim text) = trim text := by
  have start : trimStart (trim text) = trim text := by
    refine trimStart_eq_self fun first begins => ?_
    obtain ⟨tail, split⟩ := trimEnd_isPrefix (trimStart text)
    have proper := List.head?_dropWhile_not isBlank text
    rw [show List.dropWhile isBlank text = trim text ++ tail from split.symm, List.head?_append, begins,
      Option.some_or] at proper
    exact proper
  rw [trim, start, trim, trimEnd_trimEnd]

/-- Where trimming gives back as much as was there, nothing stood around it. -/
theorem padding_of_trim (whole : text.trim = left ++ text ++ right) : left = [] ∧ right = [] := by
  have shorter := (trim_isInfix text).length_le
  rw [whole, List.length_append, List.length_append] at shorter
  exact ⟨List.length_eq_zero_iff.mp (by omega), List.length_eq_zero_iff.mp (by omega)⟩

end Text

namespace ItemList

/-- The fields without the blanks around them, and without those that are blank. -/
def entries (fields : List Text) : List Text := (fields.map Text.trim).filter (· ≠ [])

def Loose (text : Text) : Prop := ',' ∉ text ∧ text.trim ≠ [] ∧ text.trim ≠ text

variable {text blank left right : Text} {front back fields : List Text}

theorem entries_append (front back : List Text) : entries (front ++ back) = entries front ++ entries back := by
  rw [entries, List.map_append, List.filter_append, entries, entries]

theorem entries_singleton (field : Text) : entries [field] = if field.trim = [] then [] else [field.trim] := by
  by_cases empty : field.trim = [] <;> simp [entries, empty]

theorem entries_blank (idle : blank.allBlank = true) (front back : List Text) :
    entries (front ++ blank :: back) = entries (front ++ back) := by
  rw [List.append_cons, entries_append, entries_append, entries_append, entries_singleton,
    if_pos (Text.trim_eq_nil_iff.mpr idle), List.append_nil]

/-- The entries of what stands on both sides of a comma are those of one side and then those of the other. -/
theorem entries_comma (before after : Text) : entries (Text.fields ',' (before ++ ',' :: after)) =
    entries (Text.fields ',' before) ++ entries (Text.fields ',' after) := by
  rw [Text.fields_append, entries_append]

theorem entries_whole (whole : ',' ∉ text) :
    entries (Text.fields ',' text) = if text.trim = [] then [] else [text.trim] := by
  rw [Text.fields_of_notMem whole, entries_singleton]

theorem entries_behind_blank (idle : left.allBlank = true) (text : Text) :
    entries (Text.fields ',' (left ++ text)) = entries (Text.fields ',' text) := by
  have plain := Text.comma_notMem_blank idle
  have alone (first : Text) (whole : ',' ∉ first) :
      entries (Text.fields ',' (left ++ first)) = entries (Text.fields ',' first) := by
    rw [entries_whole (by simp [plain, whole]), entries_whole whole, Text.trim_blank_append idle]
  by_cases cut : ',' ∈ text
  · obtain ⟨first, rest, rfl, whole⟩ := List.eq_append_cons_of_mem cut
    rw [← List.append_assoc, entries_comma, entries_comma, alone first whole]
  · exact alone text cut

theorem entries_ahead_of_blank (idle : right.allBlank = true) (text : Text) :
    entries (Text.fields ',' (text ++ right)) = entries (Text.fields ',' text) := by
  by_cases cut : ',' ∈ text
  · obtain ⟨first, rest, rfl, -⟩ := List.eq_append_cons_of_mem cut
    -- The last field is reached one comma at a time.
    rw [List.append_assoc, List.cons_append, entries_comma, entries_comma, entries_ahead_of_blank idle rest]
  · have plain := Text.comma_notMem_blank idle
    have blanks : ∀ character ∈ right, Text.isBlank character = true := List.all_eq_true.mp idle
    rw [entries_whole (by simp [plain, cut]), entries_whole cut, Text.trim_append_blank blanks]
termination_by text.length

theorem items_of_loose (loose : Loose text) : (joined text).items = [text] := by
  obtain ⟨whole, given, -⟩ := loose
  rw [ne_eq, Text.trim_eq_nil_iff] at given
  rw [items, if_neg whole, if_neg given]

theorem items_of_not_loose (firm : ¬Loose text) : (joined text).items = entries (Text.fields ',' text) := by
  rw [items]
  by_cases cut : ',' ∈ text
  · rw [if_pos cut, entries]
  · rw [if_neg cut, entries_whole cut]
    by_cases empty : text.trim = []
    · rw [if_pos (Text.trim_eq_nil_iff.mp empty), if_pos empty]
    · have trimmed : text.trim = text := by
        by_contra padded
        exact firm ⟨cut, empty, padded⟩
      rw [if_neg (by rwa [← Text.trim_eq_nil_iff]), if_neg empty, trimmed]

theorem entries_of_loose (loose : Loose text) : entries (Text.fields ',' text) = [text.trim] := by
  rw [entries_whole loose.1, if_neg loose.2.1]

theorem items_eq_entries_iff : (joined text).items = entries (Text.fields ',' text) ↔ ¬Loose text := by
  constructor
  · intro same loose
    rw [items_of_loose loose, entries_of_loose loose, List.singleton_inj] at same
    exact loose.2.2 same.symm
  · exact items_of_not_loose

theorem proper_of_mem_items {item : Text} (member : item ∈ (joined text).items) : item.trim ≠ [] ∧ ',' ∉ item := by
  by_cases loose : Loose text
  · rw [items_of_loose loose, List.mem_singleton] at member
    subst member
    exact ⟨loose.2.1, loose.1⟩
  · rw [items_of_not_loose loose] at member
    obtain ⟨mapped, given⟩ := List.mem_filter.mp member
    obtain ⟨field, among, rfl⟩ := List.mem_map.mp mapped
    rw [Text.trim_trim]
    exact ⟨by simpa using given, Text.comma_notMem_trim (Text.notMem_fields among)⟩

theorem items_trimmed_iff : (∀ item ∈ (joined text).items, item.trim = item) ↔ ¬Loose text := by
  constructor
  · intro trimmed loose
    rw [items_of_loose loose] at trimmed
    exact loose.2.2 (trimmed text (List.mem_singleton.mpr rfl))
  · intro firm item member
    rw [items_of_not_loose firm] at member
    obtain ⟨field, -, rfl⟩ := List.mem_map.mp (List.mem_of_mem_filter member)
    exact Text.trim_trim field

theorem not_loose_of_fields (parts : Text.fields ',' text = front ++ blank :: back) (given : front ++ back ≠ []) :
    ¬Loose text := by
  rintro ⟨whole, -⟩
  rw [Text.fields_of_notMem whole] at parts
  have lengths := congrArg List.length parts
  have some_ := List.length_pos_iff.mpr given
  simp only [List.length_nil, List.length_append, List.length_cons] at lengths some_
  omega

theorem items_with_blank (parts : Text.fields ',' text = front ++ back) (idle : blank.allBlank = true) :
    (joined ([','].intercalate (front ++ blank :: back))).items = entries (Text.fields ',' text) := by
  have given : front ++ back ≠ [] := by
    rw [← parts]
    exact Text.fields_ne_nil ',' text
  have plain : ∀ part ∈ front ++ back, ',' ∉ part := by
    rw [← parts]
    exact fun part => Text.notMem_fields
  have whole : ∀ part ∈ front ++ blank :: back, ',' ∉ part := by
    intro part member
    rcases List.mem_append.mp member with ahead | rest
    · exact plain part (List.mem_append_left _ ahead)
    · rcases List.mem_cons.mp rest with rfl | behind
      · exact Text.comma_notMem_blank idle
      · exact plain part (List.mem_append_right _ behind)
  have cut := Text.fields_intercalate (by simp) whole
  rw [items_of_not_loose (not_loose_of_fields cut given), cut, entries_blank idle, parts]

theorem items_ahead_of_comma (text : Text) :
    (joined (text ++ [','])).items = entries (Text.fields ',' text) := by
  have firm : ¬Loose (text ++ [',']) := fun loose => loose.1 (by simp)
  rw [items_of_not_loose firm, entries_comma]
  exact List.append_nil _

theorem isEmpty_iff : (joined text).isEmpty = true ↔
    ∀ character ∈ text, character = ',' ∨ Text.isBlank character = true := by
  have some_ := @items_ne_nil_iff (joined text)
  rw [isEmpty, List.isEmpty_iff, ← not_iff_not, ← ne_eq, some_, HasEntry]
  push Not
  simp only [and_comm, ne_eq, Bool.not_eq_true]

theorem entries_padded (idle : left.allBlank = true) (also : right.allBlank = true) (text : Text) :
    entries (Text.fields ',' (left ++ text ++ right)) = entries (Text.fields ',' text) := by
  rw [entries_ahead_of_blank also, entries_behind_blank idle]

theorem Loose.padded (loose : Loose text) (idle : left.allBlank = true) (also : right.allBlank = true) :
    Loose (left ++ text ++ right) := by
  obtain ⟨whole, given, padded⟩ := loose
  have blanks : ∀ character ∈ right, Text.isBlank character = true := List.all_eq_true.mp also
  have trimmed : Text.trim (left ++ text ++ right) = text.trim := by
    rw [Text.trim_append_blank blanks, Text.trim_blank_append idle]
  refine ⟨by simp [whole, Text.comma_notMem_blank idle, Text.comma_notMem_blank also], by rwa [trimmed], ?_⟩
  rw [trimmed]
  intro same
  obtain ⟨rfl, rfl⟩ := Text.padding_of_trim same
  rw [List.nil_append, List.append_nil] at same
  exact padded same

theorem items_padded (idle : left.allBlank = true) (also : right.allBlank = true)
    (firm : ¬Loose (left ++ text ++ right)) : (joined (left ++ text ++ right)).items = (joined text).items := by
  have inner : ¬Loose text := fun loose => firm (loose.padded idle also)
  rw [items_of_not_loose firm, items_of_not_loose inner, entries_padded idle also]

theorem items_padded_iff (idle : left.allBlank = true) (also : right.allBlank = true) :
    (joined (left ++ text ++ right)).items = (joined text).items ↔
      ¬Loose (left ++ text ++ right) ∨ left = [] ∧ right = [] := by
  constructor
  · intro same
    by_contra other
    simp only [not_or, not_not] at other
    obtain ⟨loose, given⟩ := other
    rw [items_of_loose loose] at same
    by_cases inner : Loose text
    · rw [items_of_loose inner, List.singleton_inj] at same
      have lengths := congrArg List.length same
      simp only [List.length_append] at lengths
      exact given ⟨List.length_eq_zero_iff.mp (by omega), List.length_eq_zero_iff.mp (by omega)⟩
    · rw [items_of_not_loose inner, ← entries_padded idle also, entries_of_loose loose, List.singleton_inj] at same
      exact loose.2.2 same.symm
  · rintro (firm | ⟨rfl, rfl⟩)
    · exact items_padded idle also firm
    · rw [List.nil_append, List.append_nil]

end ItemList

theorem Tokens.packages_eq (list : Option ItemList) :
    packages list = .ok ((ItemList.itemsOf list).map (Text.replaceChar ';' ',')) := by
  cases list <;> rfl

section Plans

variable (world : World)

/-- A plan depends on its lists by their entries only. -/
theorem InstallRequest.plan_of_items (request : InstallRequest) {packages editable mirrors : Option ItemList}
    (same : ItemList.itemsOf packages = ItemList.itemsOf request.packages)
    (also : ItemList.itemsOf editable = ItemList.itemsOf request.editable)
    (last : ItemList.itemsOf mirrors = ItemList.itemsOf request.mirrors) :
    plan world { request with packages, editable, mirrors } = plan world request := by
  simp only [plan, namesSomething, leadingParts, trailingParts, Tokens.editables, Tokens.mirrors, Tokens.packages_eq,
    same, also, last]

theorem UninstallRequest.plan_of_items (request : UninstallRequest) {packages : Option ItemList}
    (same : ItemList.itemsOf packages = ItemList.itemsOf request.packages) :
    plan world { request with packages } = plan world request := by
  simp only [plan, namesSomething, leadingParts, trailingParts, Tokens.packages_eq, same]

def PlannedAlike (one other : ItemList) : Prop :=
  ∀ (world : World) (request : InstallRequest) (removal : UninstallRequest),
    InstallRequest.plan world { request with packages := some one } =
      InstallRequest.plan world { request with packages := some other } ∧
    InstallRequest.plan world { request with editable := some one } =
      InstallRequest.plan world { request with editable := some other } ∧
    InstallRequest.plan world { request with mirrors := some one } =
      InstallRequest.plan world { request with mirrors := some other } ∧
    UninstallRequest.plan world { removal with packages := some one } =
      UninstallRequest.plan world { removal with packages := some other }

theorem plannedAlike_of_items {one other : ItemList} (same : one.items = other.items) : PlannedAlike one other := by
  have entries : ItemList.itemsOf (some one) = ItemList.itemsOf (some other) := same
  intro world request removal
  refine ⟨?_, ?_, ?_, ?_⟩
  · exact InstallRequest.plan_of_items world { request with packages := some other } entries rfl rfl
  · exact InstallRequest.plan_of_items world { request with editable := some other } rfl entries rfl
  · exact InstallRequest.plan_of_items world { request with mirrors := some other } rfl rfl entries
  · exact UninstallRequest.plan_of_items world { removal with packages := some other } entries

end Plans

open ItemList (entries Loose)

/-- A joined text is read as its fields, trimmed and without the blank ones, unless it is a single entry with blanks
around it, which is kept with them. Blank fields, a last comma and blanks on both sides change neither the entries nor
a plan, that one case apart; and no entry is blank or has a comma in it. -/
theorem joined_lists_read_by_fields (text : Text) :
    let fields : List Text := Text.fields ',' text
    let items (text : Text) := (ItemList.joined text).items
    ([','].intercalate fields = text ∧ fields ≠ [] ∧ ∀ field ∈ fields, ',' ∉ field) ∧
    (items text = entries fields ↔ ¬Loose text) ∧
    (Loose text → items text = [text]) ∧
    (∀ item ∈ items text, item.trim ≠ [] ∧ ',' ∉ item) ∧
    ((∀ item ∈ items text, item.trim = item) ↔ ¬Loose text) ∧
    (∀ front back blank, fields = front ++ back → blank.allBlank = true →
      (items ([','].intercalate (front ++ blank :: back)) = items text ↔ ¬Loose text)) ∧
    (items (text ++ [',']) = items text ↔ ¬Loose text) ∧
    ((ItemList.joined text).isEmpty = true ↔ ∀ character ∈ text, character = ',' ∨ Text.isBlank character = true) ∧
    ∀ left right, left.allBlank = true → right.allBlank = true →
      (items (left ++ text ++ right) = items text ↔ ¬Loose (left ++ text ++ right) ∨ left = [] ∧ right = []) ∧
      (¬Loose (left ++ text ++ right) → PlannedAlike (.joined (left ++ text ++ right)) (.joined text)) := by
  intro fields items
  refine ⟨⟨Text.intercalate_fields ',' text, Text.fields_ne_nil ',' text, fun field => Text.notMem_fields⟩,
    ItemList.items_eq_entries_iff, ItemList.items_of_loose, fun item => ItemList.proper_of_mem_items,
    ItemList.items_trimmed_iff, ?_, ?_, ItemList.isEmpty_iff, ?_⟩
  · intro front back blank parts idle
    rw [← ItemList.items_eq_entries_iff, eq_comm]
    exact Eq.congr_right (ItemList.items_with_blank parts idle)
  · rw [← ItemList.items_eq_entries_iff, eq_comm]
    exact Eq.congr_right (ItemList.items_ahead_of_comma text)
  · intro left right idle also
    exact ⟨ItemList.items_padded_iff idle also, fun firm =>
      plannedAlike_of_items (ItemList.items_padded idle also firm)⟩

theorem joined_lists_read_by_fields_padded :
    let text : Text := "six>1;<2, , seven"
    let items (text : Text) := (ItemList.joined text).items
    items text = [("six>1;<2" : Text), ("seven" : Text)] ∧
      items "six>1;<2, , seven\t,\n" = items text ∧
      items " six>1;<2, , seven\t" = items text ∧
      PlannedAlike (.joined " six>1;<2, , seven\t") (.joined text) ∧
      items " six " = [(" six " : Text)] := by
  intro text items
  have firm : ¬Loose text := fun loose => loose.1 (by decide)
  have padded : ¬Loose " six>1;<2, , seven\t" := fun loose => loose.1 (by decide)
  have loose : Loose " six " := ⟨by decide, by decide, by decide⟩
  obtain ⟨-, read, -, -, -, blanks, -, -, around⟩ := joined_lists_read_by_fields text
  obtain ⟨-, -, kept, -⟩ := joined_lists_read_by_fields " six "
  obtain ⟨same, plans⟩ := around " " "\t" (by decide) (by decide)
  refine ⟨?_, ?_, same.mpr (Or.inl padded), plans padded, kept loose⟩
  · exact (read.mpr firm).trans (by decide)
  · exact (blanks [("six>1;<2" : Text), (" " : Text), (" seven" : Text)] [] "\n" (by decide) (by decide)).mpr firm

/-- A single entry with a blank ahead of it keeps the blank, which a comma behind it takes away, and a path is then no
longer found to be one. -/
theorem joined_entry_keeps_blanks :
    let world : World := { disk := {}, host := { folder := [] } }
    let plan (editable : Text) := InstallRequest.plan world { editable := some (.joined editable) }
    (ItemList.joined " /srv").items = [(" /srv" : Text)] ∧ entries (Text.fields ',' " /srv") = [("/srv" : Text)] ∧
      (ItemList.joined " /srv,").items = [("/srv" : Text)] ∧
      plan " /srv" = .error (.invalid (.namelessEditable " /srv")) ∧
      plan "/srv" = .ok ⟨["install", "--editable=/srv"], none, []⟩ := by
  refine ⟨?_, ?_, ?_, ?_, ?_⟩ <;> decide +kernel

end PipDriver
