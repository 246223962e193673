import Mathlib.Data.List.TakeWhile
import PipDriver.Proofs.Fields
import PipDriver.Request.Install
import PipDriver.Request.Uninstall

/-!
What comes of the parts of a plan: the first fault that is found in them, or their arguments one after another.
And which lists have an entry at all.
-/

namespace PipDriver

namespace Text

theorem trimStart_eq_nil_iff {text : Text} : text.trimStart = [] ↔ text.allBlank = true := by
  rw [trimStart, List.dropWhile_eq_nil_iff, allBlank, List.all_eq_true]

theorem trim_eq_nil_iff {text : Text} : text.trim = [] ↔ text.allBlank = true := by
  rw [← trimStart_eq_nil_iff, trim, trimEnd, List.reverse_eq_nil_iff, List.dropWhile_eq_nil_iff]
  constructor
  · intro blank
    by_contra given
    have first : isBlank (text.trimStart.head given) = true := blank _ (List.mem_reverse.mpr (List.head_mem given))
    have proper : isBlank (text.trimStart.head given) = false := List.head_dropWhile_not isBlank given
    simp [first] at proper
  · intro empty
    simp [empty]

theorem allBlank_eq_false_iff {text : Text} :
    text.allBlank = false ↔ ∃ character ∈ text, isBlank character = false := by
  simp [allBlank]

end Text

def ItemList.HasEntry : ItemList → Prop
  | .many entries => ∃ entry ∈ entries, ∃ character ∈ entry, Text.isBlank character = false
  | .joined text => ∃ character ∈ text, Text.isBlank character = false ∧ character ≠ ','

theorem ItemList.items_ne_nil_iff {list : ItemList} : list.items ≠ [] ↔ list.HasEntry := by
  cases list with
  | many entries => simp [items, HasEntry, List.filter_eq_nil_iff, Text.allBlank_eq_false_iff]
  | joined text =>
      have some_field : (∃ field : Text, field ∈ Text.fields ',' text ∧ field.allBlank = false) ↔ HasEntry (.joined text) := by
        simp only [Text.allBlank_eq_false_iff, HasEntry]
        constructor
        · rintro ⟨field, among, character, member, proper⟩
          obtain ⟨member, other⟩ := Text.exists_mem_fields_iff.mp ⟨field, among, member⟩
          exact ⟨character, member, proper, other⟩
        · rintro ⟨character, member, proper, other⟩
          obtain ⟨field, among, member⟩ := Text.exists_mem_fields_iff.mpr ⟨member, other⟩
          exact ⟨field, among, character, member, proper⟩
      simp only [items]
      split
      · rw [← some_field]
        simp [List.filter_eq_nil_iff, Text.trim_eq_nil_iff]
      · rename_i whole
        have no_comma : ∀ character ∈ text, character ≠ ',' := by
          rintro _ member rfl
          exact whole member
        have same : HasEntry (.joined text) ↔ text.allBlank = false := by
          simp only [Text.allBlank_eq_false_iff, HasEntry]
          constructor
          · rintro ⟨character, member, proper, -⟩
            exact ⟨character, member, proper⟩
          · rintro ⟨character, member, proper⟩
            exact ⟨character, member, proper, no_comma character member⟩
        rw [same]
        cases text.allBlank <;> simp

theorem ItemList.itemsOf_ne_nil_iff {list : Option ItemList} :
    itemsOf list ≠ [] ↔ ∃ entries, list = some entries ∧ entries.HasEntry := by
  cases list with
  | none => simp [itemsOf]
  | some entries => simp [itemsOf, ← items_ne_nil_iff]

namespace ItemList

def isWritten (text : Text) : Bool := text.any fun character => !Text.isBlank character

/-- The entries of a list. A joined text gives its fields, without the blanks around them where it has several. -/
def listed : ItemList → List Text
  | .many entries => entries.filter isWritten
  | .joined text =>
    match Text.fields ',' text with
    | [entry] => [entry].filter isWritten
    | fields => (fields.filter isWritten).map Text.trim

theorem isWritten_eq (text : Text) : isWritten text = !text.allBlank := by
  rw [isWritten, Text.allBlank, List.not_all_eq_any_not]

theorem items_eq_listed (list : ItemList) : list.items = list.listed := by
  cases list with
  | many entries => exact List.filter_congr fun entry _ => (isWritten_eq entry).symm
  | joined text =>
      rw [items, listed]
      split
      · rename_i cut
        have written : (fun entry : Text => decide (entry ≠ [])) ∘ Text.trim = isWritten := by
          funext entry
          rw [isWritten_eq, Function.comp_apply, Bool.eq_iff_iff, decide_eq_true_iff, ne_eq, Text.trim_eq_nil_iff,
            Bool.not_eq_true', Bool.not_eq_true]
        rw [List.filter_map, written]
        split
        · rename_i entry single
          -- A comma leaves two fields at least.
          have uncut : ',' ∉ text := by
            rw [← Text.intercalate_fields ',' text, single, List.intercalate_singleton]
            exact Text.notMem_fields (single ▸ List.mem_singleton_self entry)
          exact (uncut cut).elim
        · rfl
      · rename_i whole
        rw [Text.fields_of_notMem whole]
        simp only [isWritten_eq, List.filter_singleton]
        cases text.allBlank <;> rfl

/-- The entries as they are handed to pip, with a comma for every semicolon. -/
def handed (list : Option ItemList) : List Text :=
  (list.toList.flatMap listed).map fun entry => entry.map fun sign => if sign = ';' then ',' else sign

theorem itemsOf_eq (list : Option ItemList) : itemsOf list = list.toList.flatMap listed := by
  cases list with
  | none => rfl
  | some list => exact (items_eq_listed list).trans (List.append_nil _).symm

theorem handed_eq (list : Option ItemList) : handed list = (list.map packages).getD [] := by
  rw [handed, ← itemsOf_eq]
  cases list <;> rfl

end ItemList

namespace Tokens

def fault? : Tokens → Option Failure
  | .ok _ => none
  | .error failure => some failure

def accepted : Tokens → List Text
  | .ok tokens => tokens
  | .error _ => []

theorem given_eq_some_iff {value : Option Text} {text : Text} :
    given value = some text ↔ value = some text ∧ text ≠ [] := by
  rw [given, Option.filter_eq_some_iff, decide_eq_true_iff]

@[simp] theorem fault?_ok (tokens : List Text) : fault? (.ok tokens) = none := rfl

@[simp] theorem accepted_ok (tokens : List Text) : accepted (.ok tokens) = tokens := rfl

theorem concat_eq (parts : List Tokens) : concat parts =
    match parts.findSome? fault? with
    | some failure => .error failure
    | none => .ok (parts.flatMap accepted) := by
  induction parts with
  | nil => rfl
  | cons part rest ih =>
      cases part with
      | error failure => rfl
      | ok tokens =>
          simp only [concat, ih, List.findSome?_cons, fault?]
          cases rest.findSome? fault? <;> rfl

theorem accepted_indexConflict (off : Bool) (index extra : Option Text) :
    accepted (indexConflict off index extra) = [] := by
  unfold indexConflict
  split <;> rfl

theorem fault?_concat (parts : List Tokens) : fault? (concat parts) = parts.findSome? fault? := by
  rw [concat_eq]
  cases parts.findSome? fault? <;> rfl

theorem findSome?_fault?_cons (part : Tokens) (rest : List Tokens) :
    (part :: rest).findSome? fault? = (fault? part).or (rest.findSome? fault?) := by
  rw [List.findSome?_cons]
  cases fault? part <;> rfl

theorem accepted_concat {parts : List Tokens} (kept : parts.findSome? fault? = none) :
    accepted (concat parts) = parts.flatMap accepted := by
  rw [concat_eq, kept]
  rfl

theorem accepted_editable {entry : Text} (kept : fault? (editable entry) = none) :
    accepted (editable entry) = [setting "--editable" entry] := by
  unfold editable at kept ⊢
  cases checked : Editable.check entry with
  | ok _ => rfl
  | error complaint => simp [checked, fault?] at kept

end Tokens

/-- Parts are refused for the first fault in them, and make a plan if there is none. -/
theorem Plan.ofParts_eq (leading trailing : List Tokens) (source : Option Source) :
    ofParts leading trailing source =
      match (leading ++ trailing).findSome? Tokens.fault? with
      | some failure => .error failure
      | none => .ok ⟨leading.flatMap Tokens.accepted, source, trailing.flatMap Tokens.accepted⟩ := by
  simp only [ofParts, Tokens.concat_eq, List.findSome?_append]
  cases leading.findSome? Tokens.fault? with
  | some failure => rfl
  | none => cases trailing.findSome? Tokens.fault? <;> rfl

theorem Plan.ofParts_eq_ok_iff {leading trailing : List Tokens} {source : Option Source} {plan : Plan} :
    ofParts leading trailing source = .ok plan ↔ (∀ part ∈ leading ++ trailing, Tokens.fault? part = none) ∧
      plan = ⟨leading.flatMap Tokens.accepted, source, trailing.flatMap Tokens.accepted⟩ := by
  rw [ofParts_eq, ← List.findSome?_eq_none_iff]
  cases (leading ++ trailing).findSome? Tokens.fault? with
  | some failure => simp
  | none => simp [eq_comm]

/-- Where a part that says nothing leaves a plan, the plan with another part in its place is told by that part. -/
theorem Plan.ofParts_slot {leading before after : List Tokens} {source : Option Source} {plan : Plan}
    (made : ofParts leading (before ++ .ok [] :: after) source = .ok plan) :
    plan.trailing = before.flatMap Tokens.accepted ++ after.flatMap Tokens.accepted ∧
      ∀ part, ofParts leading (before ++ part :: after) source =
        match part with
        | .error failure => .error failure
        | .ok tokens => .ok { plan with
            trailing := before.flatMap Tokens.accepted ++ tokens ++ after.flatMap Tokens.accepted } := by
  rw [ofParts_eq_ok_iff] at made
  obtain ⟨sound, rfl⟩ := made
  simp only [List.mem_append, List.mem_cons] at sound
  refine ⟨by simp, fun part => ?_⟩
  cases part with
  | error failure =>
      have ahead : (leading ++ before).findSome? Tokens.fault? = none := by
        rw [List.findSome?_eq_none_iff]
        intro part among
        exact sound part ((List.mem_append.mp among).imp_right Or.inl)
      rw [ofParts_eq, ← List.append_assoc, List.findSome?_append, ahead, Option.none_or, List.findSome?_cons]
      rfl
  | ok tokens =>
      rw [ofParts_eq_ok_iff]
      refine ⟨?_, by simp⟩
      intro part among
      simp only [List.mem_append, List.mem_cons] at among
      rcases among with early | early | rfl | late
      · exact sound part (Or.inl early)
      · exact sound part (Or.inr (Or.inl early))
      · rfl
      · exact sound part (Or.inr (Or.inr (Or.inr late)))

/-- What a part of a plan says is said behind the requirements file. -/
theorem Plan.mem_trailing {leading trailing : List Tokens} {source : Option Source} {plan : Plan}
    (made : ofParts leading trailing source = .ok plan) {part : Tokens} (among : part ∈ trailing) :
    ∃ tokens, part = .ok tokens ∧ ∀ token ∈ tokens, token ∈ plan.trailing := by
  rw [ofParts_eq] at made
  split at made
  · cases made
  · rename_i sound
    cases made
    rw [List.findSome?_eq_none_iff] at sound
    have accepted := sound part (List.mem_append_right _ among)
    cases part with
    | error failure => cases accepted
    | ok tokens =>
        exact ⟨tokens, rfl, fun token member => List.mem_flatMap.mpr ⟨_, among, member⟩⟩

theorem Plan.mem_trailing_log {leading trailing : List Tokens} {source : Option Source} {plan : Plan} {world : World}
    {log : Option Path} {path : Path} (made : ofParts leading trailing source = .ok plan)
    (given : log = some path) (among : Tokens.log world log ∈ trailing) :
    Tokens.setting "--log" path.text ∈ plan.trailing := by
  subst given
  obtain ⟨tokens, said, told⟩ := mem_trailing made among
  simp only [Tokens.log] at said
  split at said
  · cases said
    exact told _ (by simp)
  · cases said

end PipDriver
