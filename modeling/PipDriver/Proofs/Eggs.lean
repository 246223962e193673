import PipDriver.Proofs.Listings
import PipDriver.Proofs.Patterns
import PipDriver.Request.Editable

/-!
Names of packages in addresses. Editable entries and listings look for them with two patterns that try the same
places in the same order; one takes the first place, the other the first that has a name.
-/

namespace PipDriver

namespace Text

variable {text : Text}

theorem trim_trimEnd (text : Text) : trim (trimEnd text) = trim text := by
  have parts : text = trimEnd text ++ (text.reverse.takeWhile isBlank).reverse := by
    rw [trimEnd, ← List.reverse_append, List.takeWhile_append_dropWhile, List.reverse_reverse]
  conv_rhs => rw [parts]
  refine (trim_append_blank (fun character member => ?_) _).symm
  exact List.mem_takeWhile_imp (List.mem_reverse.mp member)

theorem trimEnd_cons_blank {blank : Char} (white : isBlank blank = true) :
    trimEnd (blank :: text) = if trimEnd text = [] then [] else blank :: trimEnd text := by
  rw [trimEnd, trimEnd, List.reverse_cons, List.dropWhile_append]
  by_cases gone : text.reverse.dropWhile isBlank = []
  · simp [gone, white]
  · simp [gone]

theorem trimEnd_eq_nil_of_trim (gone : trim text = []) : trimEnd text = [] := by
  rw [trim, trimEnd, List.reverse_eq_nil_iff, List.dropWhile_eq_nil_iff] at gone
  rw [trimEnd, List.reverse_eq_nil_iff, List.dropWhile_eq_nil_iff]
  intro character member
  rw [List.mem_reverse, ← List.takeWhile_append_dropWhile (p := isBlank) (l := text), List.mem_append] at member
  rcases member with leading | later
  · exact List.mem_takeWhile_imp leading
  · exact gone character (List.mem_reverse.mpr later)

theorem trim_isInfix (text : Text) : trim text <:+: text :=
  (trimEnd_isPrefix _).isInfix.trans (List.dropWhile_suffix isBlank).isInfix

end Text

namespace Egg

open Text (Pattern)

def mark : Pattern :=
  .either (.exactly "#") (.next (.exactly "#") (.next (.few fun character => character ≠ '\n') (.exactly "&")))

def parameter (value : Pattern) : Pattern := .next mark (.next (.exactly "egg=") (.captured value))

/-- What editable entries are searched for: `(#|#.*?&)egg=([^&]*)`. -/
def entryPattern : Pattern := parameter (.many fun character => character ≠ '&')

/-- What listings are searched for: `(#|#.*?&)egg=([^&]+)`. -/
def listingPattern : Pattern :=
  parameter (.next (.one fun character => character ≠ '&') (.many fun character => character ≠ '&'))

def valueAt? (text : Text) : Option Text :=
  (("egg=" : Text).isPrefixOf? text).map fun rest => rest.takeWhile (· ≠ '&')

def laterValues : Text → List Text
  | [] => []
  | character :: rest =>
    if character = '\n' then []
    else if character = '&' then (valueAt? rest).toList ++ laterValues rest
    else laterValues rest

def values : Text → List Text
  | [] => []
  | character :: rest =>
    if character = '#' then (valueAt? rest).toList ++ laterValues rest ++ values rest else values rest

variable {wanted : Text → Bool}

section Reading

variable (wanted)

theorem nameAt?_eq (text : Text) : nameAt? wanted text = (valueAt? text).toList.find? wanted := by
  unfold nameAt? valueAt?
  cases ("egg=" : Text).isPrefixOf? text with
  | none => rfl
  | some rest => simp

theorem nameAfterAmpersand?_eq (text : Text) : nameAfterAmpersand? wanted text = (laterValues text).find? wanted := by
  induction text with
  | nil => rfl
  | cons character rest ih =>
      rw [nameAfterAmpersand?, laterValues]
      split
      · rfl
      · split
        · rw [List.find?_append, nameAt?_eq, ih]
        · exact ih

theorem name?_eq (text : Text) : name? wanted text = (values text).find? wanted := by
  induction text with
  | nil => rfl
  | cons character rest ih =>
      rw [name?, values]
      split
      · rw [List.find?_append, List.find?_append, nameAt?_eq, nameAfterAmpersand?_eq, ih]
      · exact ih

end Reading

section Searching

variable {value : Pattern}
  (fits : ∀ text, (Pattern.captured value).captures? text =
    if wanted (text.takeWhile (· ≠ '&')) then some [text.takeWhile (· ≠ '&')] else none)
include fits

theorem captures?_value (text : Text) :
    (Pattern.next (.exactly "egg=") (.captured value)).captures? text =
      ((valueAt? text).toList.find? wanted).map fun name => [name] := by
  rw [Pattern.captures?_exactly_next, valueAt?]
  cases ("egg=" : Text).isPrefixOf? text with
  | none => rfl
  | some rest => simp [fits]

theorem findSome?_leftovers (text : Text) :
    (Text.leftovers (fun character => character ≠ '\n') text).findSome?
      (Pattern.next (.exactly "&") (.next (.exactly "egg=") (.captured value))).captures? =
      ((laterValues text).find? wanted).map fun name => [name] := by
  induction text with
  | nil => rfl
  | cons character rest ih =>
      rw [Text.leftovers, List.findSome?_cons, Pattern.captures?_exactly_next, laterValues]
      by_cases ended : character = '\n'
      · subst ended
        rfl
      · rw [if_pos (by simpa using ended), if_neg ended, ih]
        by_cases ampersand : character = '&'
        · subst ampersand
          have fit : ("&" : Text).isPrefixOf? ('&' :: rest) = some rest := Text.isPrefixOf?_append ['&'] rest
          rw [if_pos rfl, List.find?_append, Option.map_or, ← captures?_value fits, fit, Option.bind_some]
          cases (Pattern.next (.exactly "egg=") (.captured value)).captures? rest <;> rfl
        · have other : ("&" : Text).isPrefixOf? (character :: rest) = none := by
            simp [List.isPrefixOf?, Ne.symm ampersand]
          rw [if_neg ampersand, other]
          rfl

theorem captures?_parameter (text : Text) : (parameter value).captures? text =
    (("#" : Text).isPrefixOf? text).bind fun rest =>
      (((valueAt? rest).toList ++ laterValues rest).find? wanted).map fun name => [name] := by
  rw [parameter, mark, Pattern.captures?_either_next, Pattern.captures?_exactly_next, Pattern.captures?_next_next,
    Pattern.captures?_exactly_next]
  cases ("#" : Text).isPrefixOf? text with
  | none => rfl
  | some rest =>
      simp only [Option.bind_some]
      rw [captures?_value fits, Pattern.captures?_next_next, Pattern.captures?_few_next, findSome?_leftovers fits,
        List.find?_append, Option.map_or]

theorem search?_parameter (text : Text) :
    (parameter value).search? text = ((values text).find? wanted).map fun name => [name] := by
  induction text with
  | nil => exact captures?_parameter fits []
  | cons character rest ih =>
      rw [Pattern.search?, captures?_parameter fits, ih, values]
      by_cases marked : character = '#'
      · subst marked
        rw [if_pos rfl, List.find?_append, Option.map_or]
        rfl
      · have other : ("#" : Text).isPrefixOf? (character :: rest) = none := by
          simp [List.isPrefixOf?, Ne.symm marked]
        rw [if_neg marked, other, Option.bind_none, Option.none_or]

end Searching

theorem search?_entryPattern (text : Text) :
    entryPattern.search? text = (values text).head?.map fun name => [name] := by
  have fits (rest : Text) := Pattern.captures?_captured_many (fun character => character ≠ '&') rest
  rw [entryPattern, @search?_parameter (fun _ => true) _ (by simpa using fits)]
  cases values text <;> rfl

theorem search?_listingPattern (text : Text) :
    listingPattern.search? text = ((values text).find? (· ≠ [])).map fun name => [name] := by
  refine search?_parameter (fun rest => ?_) text
  rw [Pattern.captures?_captured_some]
  by_cases empty : rest.takeWhile (· ≠ '&') = []
  · rw [if_pos empty, if_neg (by simpa using empty)]
  · rw [if_neg empty, if_pos (by simpa using empty)]

section Places

def valuesBehind (mark : Char) : Text → List Text
  | [] => []
  | character :: rest =>
    if character = mark then (valueAt? rest).toList ++ valuesBehind mark rest else valuesBehind mark rest

/-- The values of all `egg` parameters: that directly behind the first number sign, then those behind ampersands
after it, then those directly behind later number signs. -/
def candidates (text : Text) : List Text :=
  match text.dropWhile (· ≠ '#') with
  | [] => []
  | _ :: fragment => (valueAt? fragment).toList ++ valuesBehind '&' fragment ++ valuesBehind '#' fragment

variable {text origin fragment value : Text} {mark : Char}

theorem laterValues_eq (line : '\n' ∉ text) : laterValues text = valuesBehind '&' text := by
  induction text with
  | nil => rfl
  | cons character rest ih =>
      simp only [List.mem_cons, not_or] at line
      rw [laterValues, valuesBehind, if_neg (Ne.symm line.1), ih line.2]

theorem values_eq_nil (plain : '#' ∉ text) : values text = [] := by
  induction text with
  | nil => rfl
  | cons character rest ih =>
      simp only [List.mem_cons, not_or] at plain
      rw [values, if_neg (Ne.symm plain.1), ih plain.2]

theorem values_origin (plain : '#' ∉ origin) :
    values (origin ++ '#' :: fragment) = (valueAt? fragment).toList ++ laterValues fragment ++ values fragment := by
  induction origin with
  | nil => rfl
  | cons character rest ih =>
      simp only [List.mem_cons, not_or] at plain
      rw [List.cons_append, values, if_neg (Ne.symm plain.1), ih plain.2]

theorem candidates_eq_nil (plain : '#' ∉ text) : candidates text = [] := by
  have cut := Text.dropWhile_ne plain []
  rw [List.append_nil, List.dropWhile_nil] at cut
  rw [candidates, cut]

theorem candidates_origin (plain : '#' ∉ origin) : candidates (origin ++ '#' :: fragment) =
    (valueAt? fragment).toList ++ valuesBehind '&' fragment ++ valuesBehind '#' fragment := by
  have cut : (origin ++ '#' :: fragment).dropWhile (· ≠ '#') = '#' :: fragment := by
    rw [Text.dropWhile_ne plain, List.dropWhile_cons_of_neg (by simp)]
  rw [candidates, cut]

/-- Where no value behind an ampersand is wanted, those directly behind number signs are tried alone. -/
theorem find?_values (line : '\n' ∉ text) (unwanted : (valuesBehind '&' text).find? wanted = none) :
    (values text).find? wanted = (valuesBehind '#' text).find? wanted := by
  induction text with
  | nil => rfl
  | cons character rest ih =>
      simp only [List.mem_cons, not_or] at line
      have later : (valuesBehind '&' rest).find? wanted = none := by
        rw [valuesBehind] at unwanted
        split at unwanted
        · rw [List.find?_append, Option.or_eq_none_iff] at unwanted
          exact unwanted.2
        · exact unwanted
      rw [values, valuesBehind]
      split
      · rw [List.find?_append, List.find?_append, List.find?_append, laterValues_eq line.2, later, Option.or_none,
          ih line.2 later]
      · exact ih line.2 later

theorem find?_values_eq (line : '\n' ∉ text) : (values text).find? wanted = (candidates text).find? wanted := by
  by_cases marked : '#' ∈ text
  · obtain ⟨origin, fragment, rfl, plain⟩ := List.eq_append_cons_of_mem marked
    simp only [List.mem_append, List.mem_cons, not_or] at line
    let front := (valueAt? fragment).toList ++ valuesBehind '&' fragment
    have parted (more : List Text) : (front ++ more).find? wanted = (front.find? wanted).or (more.find? wanted) :=
      List.find?_append
    rw [values_origin plain, candidates_origin plain, laterValues_eq line.2.2, parted, parted]
    -- A later fragment is searched for ampersands again, and by then that has been in vain.
    cases found : front.find? wanted with
    | some name => rfl
    | none =>
        rw [List.find?_append, Option.or_eq_none_iff] at found
        rw [find?_values line.2.2 found.2]
  · rw [values_eq_nil marked, candidates_eq_nil marked]

theorem valueAt?_eq_some_iff : valueAt? text = some value ↔
    ∃ rest, text = "egg=" ++ rest ∧ value = rest.takeWhile (· ≠ '&') := by
  rw [valueAt?, Option.map_eq_some_iff]
  constructor
  · rintro ⟨rest, found, rfl⟩
    exact ⟨rest, (List.isPrefixOf?_eq_some_iff_append_eq.mp found).symm, rfl⟩
  · rintro ⟨rest, rfl, rfl⟩
    exact ⟨rest, Text.isPrefixOf?_append _ _, rfl⟩

theorem mem_valuesBehind_iff : value ∈ valuesBehind mark text ↔
    ∃ before rest, text = before ++ mark :: rest ∧ valueAt? rest = some value := by
  induction text with
  | nil => simp [valuesBehind]
  | cons character others ih =>
      have split : value ∈ valuesBehind mark (character :: others) ↔
          (character = mark ∧ valueAt? others = some value) ∨ value ∈ valuesBehind mark others := by
        rw [valuesBehind]
        by_cases same : character = mark <;> simp [same]
      rw [split, ih]
      constructor
      · rintro (⟨rfl, found⟩ | ⟨before, rest, rfl, found⟩)
        · exact ⟨[], others, rfl, found⟩
        · exact ⟨character :: before, rest, rfl, found⟩
      · rintro ⟨before, rest, same, found⟩
        cases before with
        | nil =>
            obtain ⟨rfl, rfl⟩ := List.cons.inj same
            exact Or.inl ⟨rfl, found⟩
        | cons first more =>
            obtain ⟨rfl, rfl⟩ := List.cons.inj same
            exact Or.inr ⟨more, rest, rfl, found⟩

def Marked (before : Text) : Prop := before.getLast? = some '#' ∨ before.getLast? = some '&' ∧ '#' ∈ before

theorem Marked.mem {before : Text} (marked : Marked before) : '#' ∈ before := by
  rcases marked with last | ⟨-, member⟩
  · exact List.mem_of_getLast? last
  · exact member

theorem Marked.behind {before : Text} (marked : Marked before) (front : Text) : Marked (front ++ before) := by
  rcases marked with last | ⟨last, member⟩
  · exact Or.inl (by rw [List.getLast?_append, last, Option.some_or])
  · exact Or.inr ⟨by rw [List.getLast?_append, last, Option.some_or], List.mem_append_right front member⟩

/-- A value is a candidate just if it stands at a marked place. -/
theorem mem_candidates_iff : value ∈ candidates text ↔
    ∃ before rest, text = before ++ rest ∧ Marked before ∧ valueAt? rest = some value := by
  constructor
  · intro member
    have marked : '#' ∈ text := by
      by_contra plain
      rw [candidates_eq_nil plain] at member
      cases member
    obtain ⟨origin, fragment, rfl, plain⟩ := List.eq_append_cons_of_mem marked
    rw [candidates_origin plain, List.mem_append, List.mem_append, Option.mem_toList, mem_valuesBehind_iff,
      mem_valuesBehind_iff] at member
    rcases member with (first | ⟨before, rest, rfl, found⟩) | ⟨before, rest, rfl, found⟩
    · exact ⟨origin ++ ['#'], fragment, by simp, Or.inl (by simp), first⟩
    · exact ⟨(origin ++ '#' :: before) ++ ['&'], rest, by simp, Or.inr ⟨List.getLast?_concat, by simp⟩, found⟩
    · exact ⟨(origin ++ '#' :: before) ++ ['#'], rest, by simp, Or.inl List.getLast?_concat, found⟩
  · rintro ⟨before, rest, rfl, marked, found⟩
    obtain ⟨origin, more, rfl, plain⟩ := List.eq_append_cons_of_mem marked.mem
    rw [List.append_assoc, List.cons_append, candidates_origin plain, List.mem_append, List.mem_append,
      Option.mem_toList, mem_valuesBehind_iff, mem_valuesBehind_iff]
    rcases List.eq_nil_or_concat more with rfl | ⟨front, last, rfl⟩
    · exact Or.inl (Or.inl found)
    · rw [List.concat_eq_append] at marked ⊢
      have split : front ++ [last] ++ rest = front ++ last :: rest := by simp
      rcases marked with ends | ⟨ends, -⟩
      · obtain rfl : last = '#' := by simpa [List.getLast?_append, List.getLast?_cons] using ends
        exact Or.inr ⟨front, rest, split, found⟩
      · obtain rfl : last = '&' := by simpa [List.getLast?_append, List.getLast?_cons] using ends
        exact Or.inl (Or.inr ⟨front, rest, split, found⟩)

/-- Somewhere behind a number sign stands an `egg` parameter with a name. -/
def NamesPackage (text : Text) : Prop :=
  ∃ (before : Text) (first : Char) (rest : Text), text = before ++ (("egg=" : Text) ++ first :: rest) ∧ Marked before ∧ first ≠ '&'

theorem NamesPackage.within (named : NamesPackage text) (front tail : Text) : NamesPackage (front ++ text ++ tail) := by
  obtain ⟨before, first, rest, rfl, marked, plain⟩ := named
  exact ⟨front ++ before, first, rest ++ tail, by simp, marked.behind front, plain⟩

theorem namesPackage_iff : NamesPackage text ↔ ∃ name ∈ candidates text, name ≠ [] := by
  constructor
  · rintro ⟨before, first, rest, rfl, marked, plain⟩
    refine ⟨first :: rest.takeWhile (· ≠ '&'), mem_candidates_iff.mpr ⟨before, _, rfl, marked, ?_⟩, by simp⟩
    exact valueAt?_eq_some_iff.mpr ⟨first :: rest, rfl, (List.takeWhile_cons_of_pos (by simpa using plain)).symm⟩
  · rintro ⟨name, member, given⟩
    obtain ⟨before, _, rfl, marked, found⟩ := mem_candidates_iff.mp member
    obtain ⟨rest, rfl, rfl⟩ := valueAt?_eq_some_iff.mp found
    cases rest with
    | nil => exact (given rfl).elim
    | cons first others =>
        refine ⟨before, first, others, rfl, marked, ?_⟩
        rintro rfl
        exact given rfl

end Places

end Egg

section Agreement

open Egg

variable {entry : Text}

theorem Editable.check_eq_ok_iff : Editable.check entry = .ok () ↔
    Editable.isLocal entry = true ∨ ∃ name, (values entry).head? = some name ∧ name ≠ [] := by
  have first : name? (fun _ => true) entry = (values entry).head? := by
    rw [name?_eq]
    cases values entry <;> rfl
  have accepted : Editable.accepts entry = true ↔
      Editable.isLocal entry = true ∨ ∃ name, (values entry).head? = some name ∧ name ≠ [] := by
    rw [Editable.accepts, first, Bool.or_eq_true, Option.any_eq_true]
    simp
  rw [← accepted, Editable.check]
  split <;> simp_all

theorem Record.ofAddress?_eq (address : Text) : Record.ofAddress? address =
    ((values address).find? (· ≠ [])).map fun name => .editable name (address.takeWhile (· ≠ '#')) := by
  rw [ofAddress?, name?_eq]

theorem Record.ofLine?_flagged (entry : Text) : Record.ofLine? (("-e " : Text) ++ entry) =
    if entry.trim = [] then none else Record.ofAddress? entry.trim := by
  have solid : Text.Solid "-e" := ⟨⟨'-', rfl, by decide⟩, ⟨'e', rfl, by decide⟩⟩
  have whole : Text.trim (("-e " : Text) ++ entry) = ("-e" : Text) ++ Text.trimEnd (' ' :: entry) :=
    Text.trim_of_starts solid (' ' :: entry)
  rw [ofLine?, whole, Text.trimEnd_cons_blank (by decide)]
  by_cases blank : Text.trimEnd entry = []
  · have gone : Text.trim entry = [] := by rw [← Text.trim_trimEnd, blank]; rfl
    rw [if_pos blank, if_pos gone]
    rfl
  · have kept : ¬Text.trim entry = [] := fun gone => blank (Text.trimEnd_eq_nil_of_trim gone)
    rw [if_neg blank, if_neg kept, show ("-e" : Text) ++ ' ' :: Text.trimEnd entry = ("-e " : Text) ++ Text.trimEnd entry
      from rfl, Text.isPrefixOf?_append]
    simp only [Text.trim_trimEnd]

/-- An address that passes as an editable entry is read back from its line in a listing under the name that let it
pass, with all that stands before its first number sign as its origin. -/
theorem address_reads_back {entry : Text} (trimmed : Text.trim entry = entry)
    (accepted : Editable.check entry = .ok ()) (remote : Editable.isLocal entry = false) :
    ∃ name origin fragment, name ≠ [] ∧ entryPattern.search? entry = some [name] ∧
      listingPattern.search? entry = some [name] ∧ entry = origin ++ '#' :: fragment ∧ '#' ∉ origin ∧
      Record.ofLine? (("-e " : Text) ++ entry) = some (.editable name origin) := by
  rw [Editable.check_eq_ok_iff, remote] at accepted
  obtain ⟨name, first, given⟩ := accepted.resolve_left (by decide)
  have found : (values entry).find? (· ≠ []) = some name := by
    rw [List.head?_eq_some_iff] at first
    obtain ⟨others, first⟩ := first
    rw [first, List.find?_cons_of_pos (by simpa using given)]
  have marked : '#' ∈ entry := by
    by_contra plain
    rw [values_eq_nil plain] at first
    cases first
  obtain ⟨origin, fragment, same, plain⟩ := List.eq_append_cons_of_mem marked
  refine ⟨name, origin, fragment, given, ?_, ?_, same, plain, ?_⟩
  · rw [search?_entryPattern, first]
    rfl
  · rw [search?_listingPattern, found]
    rfl
  · have cut : entry.takeWhile (· ≠ '#') = origin := by
      rw [same]
      exact Text.takeWhile_ne plain (Or.inr ⟨fragment, rfl⟩)
    rw [Record.ofLine?_flagged, trimmed, if_neg (List.ne_nil_of_mem marked), Record.ofAddress?_eq, found, cut]
    rfl

theorem address_reads_back_crowded :
    let entry : Text := "x#y&egg=a&#egg=b&egg="
    Text.trim entry = entry ∧ Editable.check entry = .ok () ∧ Editable.isLocal entry = false ∧
      entryPattern.search? entry = some [("a" : Text)] ∧ listingPattern.search? entry = some [("a" : Text)] ∧
      Record.ofLine? (("-e " : Text) ++ entry) = some (.editable "a" "x") := by
  intro entry
  have trimmed : Text.trim entry = entry := by decide
  have accepted : Editable.check entry = .ok () := by decide
  have remote : Editable.isLocal entry = false := by decide
  obtain ⟨name, origin, fragment, -, checked, listed, -, -, reads⟩ := address_reads_back trimmed accepted remote
  have record : Record.ofLine? (("-e " : Text) ++ entry) = some (.editable "a" "x") := by decide
  cases reads.symm.trans record
  exact ⟨trimmed, accepted, remote, checked, listed, record⟩

/-- Without line feeds, an entry passes if it is local or the first of its parameters has a value. So the entries that
are turned away although they name a package are those that name it behind a parameter without a value; listings read
the name from them all the same. -/
theorem check_takes_first_value {entry : Text} (line : '\n' ∉ entry) :
    (Editable.check entry = .ok () ↔
      Editable.isLocal entry = true ∨ ∃ name, (candidates entry).head? = some name ∧ name ≠ []) ∧
    ((Editable.check entry = .ok () ↔ Editable.isLocal entry = true ∨ NamesPackage entry) ↔
      ¬(Editable.isLocal entry = false ∧ (candidates entry).head? = some [] ∧ NamesPackage entry)) ∧
    ((∃ record, Record.ofAddress? entry = some record) ↔ NamesPackage entry) ∧
    ((∃ record, Record.ofLine? (("-e " : Text) ++ entry) = some record) → NamesPackage entry) := by
  have first : (values entry).head? = (candidates entry).head? := by
    have same : (values entry).find? (fun _ => true) = (candidates entry).find? fun _ => true := find?_values_eq line
    cases tried : values entry <;> cases others : candidates entry <;> simp_all
  have accepted : Editable.check entry = .ok () ↔
      Editable.isLocal entry = true ∨ ∃ name, (candidates entry).head? = some name ∧ name ≠ [] := by
    rw [Editable.check_eq_ok_iff, first]
  have read {address : Text} (one : '\n' ∉ address) :
      (∃ record, Record.ofAddress? address = some record) ↔ NamesPackage address := by
    rw [Record.ofAddress?_eq, find?_values_eq one, namesPackage_iff]
    simp [← Option.isSome_iff_exists, List.find?_isSome]
  refine ⟨accepted, ?_, read line, ?_⟩
  · rw [accepted, namesPackage_iff]
    by_cases near : Editable.isLocal entry = true
    · simp [near]
    · cases tried : candidates entry with
      | nil => simp [near]
      | cons name others => by_cases given : name = [] <;> simp [near, given]
  · rintro ⟨record, reads⟩
    rw [Record.ofLine?_flagged] at reads
    split at reads
    · cases reads
    · obtain ⟨front, tail, whole⟩ := Text.trim_isInfix entry
      have one : '\n' ∉ entry.trim := fun member => line ((Text.trim_isInfix entry).subset member)
      have named := (read one).mp ⟨record, reads⟩
      rw [← whole]
      exact named.within front tail

theorem check_takes_first_value_behind_other :
    let entry : Text := "x&egg=a#sub=&egg=b&egg=#egg=c"
    '\n' ∉ entry ∧ Editable.check entry = .ok () ∧ NamesPackage entry ∧ (candidates entry).head? = some ("b" : Text) := by
  intro entry
  have line : '\n' ∉ entry := by decide
  have first : (candidates entry).head? = some ("b" : Text) := by decide
  obtain ⟨accepted, -, read, -⟩ := check_takes_first_value line
  exact ⟨line, accepted.mpr (Or.inr ⟨_, first, by decide⟩), read.mp ⟨.editable "b" "x&egg=a", by decide⟩, first⟩

/-- An entry that is turned away for its lack of a name, and the record that a listing holds of it. -/
theorem check_rejects_named :
    let entry : Text := "git+https://x#egg=&egg=foo"
    '\n' ∉ entry ∧ NamesPackage entry ∧ Editable.check entry = .error (.namelessEditable entry) ∧
      Record.ofLine? (("-e " : Text) ++ entry) = some (.editable "foo" "git+https://x") :=
  ⟨by decide, ⟨"git+https://x#egg=&", 'f', "oo", by decide, Or.inr (by decide), by decide⟩, by decide, by decide⟩

end Agreement

end PipDriver
