import PipDriver.Proofs.Eggs

/-!
Which lines of a listing are recognised. A line is read as a record just if it has one of two shapes, and each shape
says where in the line the parts of the record stand.
-/

namespace PipDriver

namespace Text

structure FirstPlace (holds : Text → Prop) (text before rest : Text) : Prop where
  whole : text = before ++ rest
  here : holds rest
  first : ∀ front back, text = front ++ back → holds back → before.length ≤ front.length

section FirstPlace

variable {holds : Text → Prop} {text before rest : Text} {character : Char}

theorem firstPlace_nil : FirstPlace holds [] before rest ↔ before = [] ∧ rest = [] ∧ holds [] := by
  constructor
  · intro place
    obtain ⟨rfl, rfl⟩ := List.append_eq_nil_iff.mp place.whole.symm
    exact ⟨rfl, rfl, place.here⟩
  · rintro ⟨rfl, rfl, here⟩
    exact ⟨rfl, here, fun _ _ _ _ => Nat.zero_le _⟩

theorem firstPlace_cons_of_pos (here : holds (character :: text)) :
    FirstPlace holds (character :: text) before rest ↔ before = [] ∧ rest = character :: text := by
  constructor
  · intro place
    have short := place.first [] (character :: text) rfl here
    obtain rfl : before = [] := List.length_eq_zero_iff.mp (Nat.le_zero.mp short)
    exact ⟨rfl, place.whole.symm⟩
  · rintro ⟨rfl, rfl⟩
    exact ⟨rfl, here, fun _ _ _ _ => Nat.zero_le _⟩

theorem firstPlace_cons_of_neg (later : ¬holds (character :: text)) :
    FirstPlace holds (character :: text) before rest ↔
      ∃ others, before = character :: others ∧ FirstPlace holds text others rest := by
  constructor
  · intro place
    cases before with
    | nil => exact (later (place.whole ▸ place.here)).elim
    | cons letter others =>
        obtain ⟨rfl, split⟩ := List.cons.inj place.whole
        refine ⟨others, rfl, split, place.here, ?_⟩
        intro front back parts found
        exact Nat.le_of_succ_le_succ (place.first (character :: front) back (congrArg _ parts) found)
  · rintro ⟨others, rfl, place⟩
    refine ⟨congrArg _ place.whole, place.here, ?_⟩
    intro front back parts found
    cases front with
    | nil => exact (later (by rwa [parts])).elim
    | cons letter more => exact Nat.succ_le_succ (place.first more back (List.cons.inj parts).2 found)

end FirstPlace

theorem splitOnce_eq_some_iff {marker text before after : Text} :
    splitOnce marker text = some (before, after) ↔ FirstPlace (marker <+: ·) text before (marker ++ after) := by
  induction text generalizing before with
  | nil =>
      rw [firstPlace_nil, splitOnce]
      by_cases empty : marker = []
      · subst empty
        simp [eq_comm]
      · simp [empty]
  | cons character rest ih =>
      rw [splitOnce]
      cases found : marker.isPrefixOf? (character :: rest) with
      | some others =>
          have split := List.isPrefixOf?_eq_some_iff_append_eq.mp found
          rw [firstPlace_cons_of_pos ⟨others, split⟩, ← split]
          simp [eq_comm]
      | none =>
          have later : ¬marker <+: character :: rest := by
            rintro ⟨others, split⟩
            rw [List.isPrefixOf?_eq_some_iff_append_eq.mpr split] at found
            cases found
          rw [firstPlace_cons_of_neg later]
          simp only [Option.map_eq_some_iff, Prod.exists, Prod.mk.injEq]
          constructor
          · rintro ⟨others, _, split, rfl, rfl⟩
            exact ⟨others, rfl, ih.mp split⟩
          · rintro ⟨others, rfl, place⟩
            exact ⟨others, after, ih.mpr place, rfl, rfl⟩

end Text

namespace Egg

variable {text fragment rest name other : Text} {mark : Char}

def Gives (name text : Text) : Prop :=
  ∃ tail, text = "egg=" ++ (name ++ tail) ∧ name ≠ [] ∧ '&' ∉ name ∧ (tail = [] ∨ ∃ more, tail = '&' :: more)

def GivesBehind (mark : Char) (text : Text) : Prop := ∃ name rest, text = mark :: rest ∧ Gives name rest

inductive Named : Text → Text → Prop
  | direct {fragment name : Text} (gives : Gives name fragment) : Named fragment name
  | ampersand {fragment before rest name : Text} (direct : ∀ other, ¬Gives other fragment)
      (place : Text.FirstPlace (GivesBehind '&') fragment before ('&' :: rest)) (gives : Gives name rest) :
      Named fragment name
  | numberSign {fragment before rest name : Text} (direct : ∀ other, ¬Gives other fragment)
      (ampersand : ∀ front back, fragment = front ++ back → ¬GivesBehind '&' back)
      (place : Text.FirstPlace (GivesBehind '#') fragment before ('#' :: rest)) (gives : Gives name rest) :
      Named fragment name

theorem gives_iff : Gives name text ↔ valueAt? text = some name ∧ name ≠ [] := by
  rw [valueAt?_eq_some_iff]
  constructor
  · rintro ⟨tail, rfl, given, plain, ended⟩
    exact ⟨⟨name ++ tail, rfl, (Text.takeWhile_ne plain ended).symm⟩, given⟩
  · rintro ⟨⟨rest, rfl, rfl⟩, given⟩
    have plain : '&' ∉ rest.takeWhile (· ≠ '&') := fun member => by simpa using List.mem_takeWhile_imp member
    refine ⟨rest.dropWhile (· ≠ '&'), by rw [List.takeWhile_append_dropWhile], given, plain, ?_⟩
    cases ends : rest.dropWhile (· ≠ '&') with
    | nil => exact Or.inl rfl
    | cons first more =>
        have stops := List.head?_dropWhile_not (· ≠ '&') rest
        rw [ends] at stops
        exact Or.inr ⟨more, by simpa using stops⟩

theorem find?_valueAt?_iff : (valueAt? text).toList.find? (· ≠ []) = some name ↔ Gives name text := by
  rw [gives_iff]
  cases valueAt? text with
  | none => simp
  | some value =>
      by_cases empty : value = []
      · subst empty
        simp +contextual [eq_comm]
      · rw [Option.toList_some, List.find?_singleton, if_pos (by simpa using empty), Option.some.injEq]
        constructor
        · rintro rfl
          exact ⟨rfl, empty⟩
        · exact And.left

theorem find?_valueAt?_none : (valueAt? text).toList.find? (· ≠ []) = none ↔ ∀ other, ¬Gives other text := by
  simp only [← find?_valueAt?_iff, Option.eq_none_iff_forall_ne_some]

theorem find?_valuesBehind_iff : (valuesBehind mark text).find? (· ≠ []) = some name ↔
    ∃ before rest, Text.FirstPlace (GivesBehind mark) text before (mark :: rest) ∧ Gives name rest := by
  induction text with
  | nil => simp [valuesBehind, Text.firstPlace_nil]
  | cons character others ih =>
      by_cases here : GivesBehind mark (character :: others)
      · obtain ⟨value, _, same, gives⟩ := id here
        obtain ⟨rfl, rfl⟩ := List.cons.inj same
        simp only [Text.firstPlace_cons_of_pos here]
        rw [valuesBehind, if_pos rfl, List.find?_append, find?_valueAt?_iff.mpr gives, Option.some_or]
        constructor
        · rintro ⟨⟩
          exact ⟨[], others, ⟨rfl, rfl⟩, gives⟩
        · rintro ⟨_, _, ⟨rfl, same⟩, other⟩
          obtain ⟨-, rfl⟩ := List.cons.inj same
          rw [← find?_valueAt?_iff.mpr gives, find?_valueAt?_iff.mpr other]
      · -- With the mark or without it, a place that gives no value adds nothing that is looked for.
        have skipped : (valuesBehind mark (character :: others)).find? (· ≠ []) =
            (valuesBehind mark others).find? (· ≠ []) := by
          rw [valuesBehind]
          split
          · rename_i marked
            have nothing := find?_valueAt?_none.mpr fun name gives => here ⟨name, others, by rw [marked], gives⟩
            rw [List.find?_append, nothing, Option.none_or]
          · rfl
        simp only [Text.firstPlace_cons_of_neg here]
        rw [skipped, ih]
        constructor
        · rintro ⟨before, rest, place, gives⟩
          exact ⟨character :: before, rest, ⟨before, rfl, place⟩, gives⟩
        · rintro ⟨_, rest, ⟨before, rfl, place⟩, gives⟩
          exact ⟨before, rest, place, gives⟩

theorem find?_valuesBehind_none : (valuesBehind mark text).find? (· ≠ []) = none ↔
    ∀ front back, text = front ++ back → ¬GivesBehind mark back := by
  rw [List.find?_eq_none]
  constructor
  · rintro empty front _ rfl ⟨name, rest, rfl, gives⟩
    obtain ⟨found, given⟩ := gives_iff.mp gives
    exact empty name (mem_valuesBehind_iff.mpr ⟨front, rest, rfl, found⟩) (by simpa using given)
  · intro nowhere name member given
    obtain ⟨before, rest, whole, found⟩ := mem_valuesBehind_iff.mp member
    exact nowhere before _ whole ⟨name, rest, rfl, gives_iff.mpr ⟨found, by simpa using given⟩⟩

theorem find?_fragment_iff :
    ((valueAt? fragment).toList ++ valuesBehind '&' fragment ++ valuesBehind '#' fragment).find? (· ≠ []) =
      some name ↔ Named fragment name := by
  rw [List.find?_append, List.find?_append, Option.or_eq_some_iff, Option.or_eq_some_iff, Option.or_eq_none_iff,
    find?_valueAt?_iff, find?_valueAt?_none, find?_valuesBehind_none, find?_valuesBehind_iff, find?_valuesBehind_iff]
  constructor
  · rintro ((gives | ⟨direct, before, rest, place, gives⟩) | ⟨⟨direct, ampersand⟩, before, rest, place, gives⟩)
    · exact .direct gives
    · exact .ampersand direct place gives
    · exact .numberSign direct ampersand place gives
  · intro named
    cases named with
    | direct gives => exact Or.inl (Or.inl gives)
    | ampersand direct place gives => exact Or.inl (Or.inr ⟨direct, _, _, place, gives⟩)
    | numberSign direct ampersand place gives => exact Or.inr ⟨⟨direct, ampersand⟩, _, _, place, gives⟩

structure Tells (address origin name : Text) : Prop where
  split : ∃ fragment, address = origin ++ '#' :: fragment ∧ Named fragment name
  plain : '#' ∉ origin

theorem tells_iff {address origin name : Text} : Tells address origin name ↔
    (candidates address).find? (· ≠ []) = some name ∧ origin = address.takeWhile (· ≠ '#') := by
  constructor
  · rintro ⟨⟨fragment, rfl, named⟩, plain⟩
    rw [candidates_origin plain, Text.takeWhile_ne plain (Or.inr ⟨fragment, rfl⟩)]
    exact ⟨find?_fragment_iff.mpr named, rfl⟩
  · rintro ⟨found, rfl⟩
    have marked : '#' ∈ address := by
      by_contra plain
      rw [candidates_eq_nil plain] at found
      cases found
    obtain ⟨origin, fragment, rfl, plain⟩ := List.eq_append_cons_of_mem marked
    rw [candidates_origin plain] at found
    rw [Text.takeWhile_ne plain (Or.inr ⟨fragment, rfl⟩)]
    exact ⟨⟨fragment, rfl, find?_fragment_iff.mp found⟩, plain⟩

theorem exists_tells_iff {address : Text} : (∃ origin name, Tells address origin name) ↔ NamesPackage address := by
  simp only [tells_iff, namesPackage_iff]
  constructor
  · rintro ⟨_, name, found, -⟩
    exact ⟨name, List.mem_of_find?_eq_some found, by simpa using List.find?_some found⟩
  · rintro ⟨value, member, given⟩
    have present : ((candidates address).find? (· ≠ [])).isSome = true :=
      List.find?_isSome.mpr ⟨value, member, by simpa using given⟩
    obtain ⟨name, found⟩ := Option.isSome_iff_exists.mp present
    exact ⟨_, name, found, rfl⟩

end Egg

namespace Record

open Egg (Tells)

/-- The two shapes of a trimmed line: a flag and an address that tells where it leads and a name, or a name and a
version on both sides of the first two equals signs. -/
inductive Recognised : Text → Record → Prop
  | editable {rest origin name : Text} (tells : Tells (Text.trim rest) origin name) :
      Recognised ("-e " ++ rest) (.editable name origin)
  | pinned {text before after : Text} (unflagged : ¬("-e " : Text) <+: text)
      (place : Text.FirstPlace (("==" : Text) <+: ·) text before ("==" ++ after)) (named : before.trim ≠ [])
      (versioned : after.trim ≠ []) : Recognised text (.pinned before.trim after.trim)

theorem ofPin?_eq_some_iff {text : Text} {record : Record} : ofPin? text = some record ↔
    ∃ before after, Text.FirstPlace (("==" : Text) <+: ·) text before ("==" ++ after) ∧ before.trim ≠ [] ∧
      after.trim ≠ [] ∧ record = .pinned before.trim after.trim := by
  simp only [← Text.splitOnce_eq_some_iff]
  rw [ofPin?]
  cases Text.splitOnce "==" text with
  | none => simp
  | some parts =>
      obtain ⟨before, after⟩ := parts
      simp only [Option.some.injEq, Prod.mk.injEq]
      constructor
      · intro made
        split at made
        · cases made
        · rename_i given
          simp only [Bool.or_eq_true, decide_eq_true_eq, not_or] at given
          exact ⟨before, after, ⟨rfl, rfl⟩, given.1, given.2, (Option.some.inj made).symm⟩
      · rintro ⟨_, _, ⟨rfl, rfl⟩, named, versioned, rfl⟩
        simp [named, versioned]

theorem ofAddress?_eq_some_iff {address : Text} {record : Record} (one : '\n' ∉ address) :
    ofAddress? address = some record ↔ ∃ origin name, Tells address origin name ∧ record = .editable name origin := by
  rw [ofAddress?_eq, Egg.find?_values_eq one, Option.map_eq_some_iff]
  simp only [Egg.tells_iff]
  constructor
  · rintro ⟨name, found, rfl⟩
    exact ⟨_, name, ⟨found, rfl⟩, rfl⟩
  · rintro ⟨_, name, ⟨found, rfl⟩, rfl⟩
    exact ⟨name, found, rfl⟩

theorem ofLine?_of_flagged {line rest : Text} (flagged : line.trim = ("-e " : Text) ++ rest) :
    ofLine? line = ofAddress? (Text.trim rest) := by
  rw [ofLine?, flagged, Text.isPrefixOf?_append]

theorem ofLine?_of_unflagged {line : Text} (unflagged : ¬("-e " : Text) <+: line.trim) :
    ofLine? line = ofPin? line.trim := by
  rw [ofLine?, Text.isPrefixOf?_eq_none unflagged]

theorem notMem_address {line rest : Text} (one : '\n' ∉ line) (flagged : line.trim = ("-e " : Text) ++ rest) :
    '\n' ∉ Text.trim rest := by
  intro member
  have inside : '\n' ∈ line.trim := by
    rw [flagged]
    exact List.mem_append_right _ ((Text.trim_isInfix rest).subset member)
  exact one ((Text.trim_isInfix line).subset inside)

theorem ofLine?_eq_some_iff {line : Text} {record : Record} (one : '\n' ∉ line) :
    ofLine? line = some record ↔ Recognised line.trim record := by
  by_cases flagged : ("-e " : Text) <+: line.trim
  · obtain ⟨rest, split⟩ := flagged
    rw [ofLine?_of_flagged split.symm, ofAddress?_eq_some_iff (notMem_address one split.symm), ← split]
    constructor
    · rintro ⟨origin, name, tells, rfl⟩
      exact .editable tells
    · intro recognised
      -- The flag is found again in the line, so the shape is taken apart with the line as a variable.
      generalize whole : ("-e " : Text) ++ rest = text at recognised
      cases recognised with
      | editable tells =>
          obtain rfl := List.append_cancel_left whole
          exact ⟨_, _, tells, rfl⟩
      | pinned unflagged => exact (unflagged ⟨rest, whole⟩).elim
  · rw [ofLine?_of_unflagged flagged, ofPin?_eq_some_iff]
    constructor
    · rintro ⟨before, after, place, named, versioned, rfl⟩
      exact .pinned flagged place named versioned
    · generalize line.trim = text at flagged ⊢
      rintro (⟨tells⟩ | ⟨-, place, named, versioned⟩)
      · exact (flagged ⟨_, rfl⟩).elim
      · exact ⟨_, _, place, named, versioned, rfl⟩

end Record

open Egg Record

/-- A line is read as the record that its shape gives, and as none if it has neither shape. Behind the flag there is
a record just if some parameter names a package, never one with a version, and the name is what the pattern captures. -/
theorem lines_read_by_shape {line : Text} (one : '\n' ∉ line) :
    (∀ record, ofLine? line = some record ↔ Recognised line.trim record) ∧
    (∀ rest, line.trim = ("-e " : Text) ++ rest →
      (∀ name version, ofLine? line ≠ some (.pinned name version)) ∧
      ((∃ name origin, ofLine? line = some (.editable name origin)) ↔ NamesPackage (Text.trim rest)) ∧
      ∀ name, listingPattern.search? (Text.trim rest) = some [name] ↔
        ∃ origin, Tells (Text.trim rest) origin name) := by
  refine ⟨fun record => ofLine?_eq_some_iff one, ?_⟩
  intro rest flagged
  have inside := notMem_address one flagged
  rw [ofLine?_of_flagged flagged, ← exists_tells_iff]
  simp only [ne_eq, ofAddress?_eq_some_iff inside]
  refine ⟨?_, ?_, ?_⟩
  · rintro name version ⟨_, _, -, other⟩
    cases other
  · constructor
    · rintro ⟨_, _, origin, name, tells, -⟩
      exact ⟨origin, name, tells⟩
    · rintro ⟨origin, name, tells⟩
      exact ⟨name, origin, origin, name, tells, rfl⟩
  · intro name
    rw [search?_listingPattern, find?_values_eq inside]
    simp [tells_iff]

theorem lines_read_by_shape_crowded :
    let line : Text := " -e x#egg=&sub=#egg=b&egg=&egg=a#egg&egg=c\t"
    let address : Text := "x#egg=&sub=#egg=b&egg=&egg=a#egg&egg=c"
    '\n' ∉ line ∧ line.trim = ("-e " : Text) ++ address ∧ Recognised line.trim (.editable "a#egg" "x") ∧
      NamesPackage address ∧ Tells address "x" "a#egg" := by
  intro line address
  have one : '\n' ∉ line := by decide
  have flagged : line.trim = ("-e " : Text) ++ address := by decide
  have trimmed : Text.trim address = address := by decide
  have read : ofLine? line = some (.editable "a#egg" "x") := by decide
  obtain ⟨shapes, flags⟩ := lines_read_by_shape one
  obtain ⟨-, named, captured⟩ := flags address flagged
  rw [trimmed] at named captured
  have found : listingPattern.search? address = some [("a#egg" : Text)] := by
    rw [search?_listingPattern]
    decide
  obtain ⟨origin, tells⟩ := (captured "a#egg").mp found
  obtain rfl : origin = "x" := (tells_iff.mp tells).2
  exact ⟨one, flagged, (shapes _).mp read, named.mp ⟨_, _, read⟩, tells⟩

end PipDriver
