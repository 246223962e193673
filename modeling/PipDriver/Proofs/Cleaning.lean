import Mathlib.Data.List.DropRight
import PipDriver.Proofs.Mirrors

/-!
Addresses as they are read and as they are passed on. An address is cleaned before it is read, but pip is given the text
as it stands, with the blanks around it and the line breaks in it.
-/

namespace PipDriver

namespace Address

def unbroken (text : Text) : Text := text.filter fun character => !isBreak character

def stripped (text : Text) : Text := (text.dropWhile isControlOrSpace).rdropWhile isControlOrSpace

def NamesScheme (text : Text) : Prop := ∃ scheme ∈ schemes, scheme ++ [':'] <+: Text.asciiLower text

instance : DecidablePred NamesScheme := fun text =>
  inferInstanceAs (Decidable (∃ scheme ∈ schemes, scheme ++ [':'] <+: Text.asciiLower text))

structure Literal (text : Text) : Prop where
  scheme : NamesScheme text
  first : text.head? ≠ some ' '
  last : text.getLast? ≠ some ' '
  whole : ∀ character ∈ text, isBreak character = false

section

variable {text other start rest scheme : Text} {character : Char}

theorem control_of_break (broken : isBreak character = true) : isControlOrSpace character = true := by
  simp only [isBreak, Bool.or_eq_true, decide_eq_true_eq] at broken
  rcases broken with (rfl | rfl) | rfl <;> decide

theorem cleaned_eq_unbroken (text : Text) : cleaned text = unbroken (stripped text) := rfl

theorem dropWhile_unbroken (text : Text) :
    (unbroken text).dropWhile isControlOrSpace = unbroken (text.dropWhile isControlOrSpace) := by
  have same : (fun character => !(!isBreak character) || isControlOrSpace character) = isControlOrSpace := by
    funext character
    cases broken : isBreak character with
    | false => rfl
    | true => simp [control_of_break broken]
  rw [unbroken, List.dropWhile_filter, same, unbroken]

-- A break is a control too, so it does not matter whether the ends or the breaks go first.
theorem cleaned_eq_stripped (text : Text) : cleaned text = stripped (unbroken text) := by
  have turned (text : Text) : unbroken text.reverse = (unbroken text).reverse := List.filter_reverse
  rw [cleaned_eq_unbroken, stripped, stripped, dropWhile_unbroken, List.rdropWhile, List.rdropWhile, ← turned,
    dropWhile_unbroken, turned]

theorem first_of_stripped (first : (stripped text).head? = some character) : isControlOrSpace character = false := by
  have starts : stripped text <+: text.dropWhile isControlOrSpace := List.rdropWhile_prefix _ _
  have begins : (text.dropWhile isControlOrSpace).head? = some character := by
    obtain ⟨rest, whole⟩ := starts
    rw [← whole, List.head?_append, first, Option.some_or]
  have proper := List.head?_dropWhile_not isControlOrSpace text
  rwa [begins] at proper

theorem last_of_stripped (last : (stripped text).getLast? = some character) : isControlOrSpace character = false := by
  have proper := List.head?_dropWhile_not isControlOrSpace (text.dropWhile isControlOrSpace).reverse
  rw [stripped, List.rdropWhile, List.getLast?_reverse] at last
  rwa [last] at proper

theorem whole_of_cleaned (among : character ∈ cleaned text) : isBreak character = false := by
  have kept := (List.mem_filter.mp among).2
  simpa using kept

theorem unbroken_of_whole (whole : ∀ character ∈ text, isBreak character = false) : unbroken text = text := by
  rw [unbroken, List.filter_eq_self]
  intro character among
  rw [whole character among]
  rfl

theorem dropWhile_of_first (first : ∀ character, text.head? = some character → isControlOrSpace character = false) :
    text.dropWhile isControlOrSpace = text := by
  cases text with
  | nil => rfl
  | cons character rest => rw [List.dropWhile_cons, first character rfl, if_neg Bool.false_ne_true]

theorem stripped_of_ends (first : ∀ character, text.head? = some character → isControlOrSpace character = false)
    (last : ∀ character, text.getLast? = some character → isControlOrSpace character = false) :
    stripped text = text := by
  rw [stripped, dropWhile_of_first first, List.rdropWhile, dropWhile_of_first, List.reverse_reverse]
  intro character ends
  rw [List.head?_reverse] at ends
  exact last character ends

theorem cleaned_cleaned (text : Text) : cleaned (cleaned text) = cleaned text := by
  rw [cleaned_eq_stripped, unbroken_of_whole fun _ => whole_of_cleaned, cleaned_eq_stripped text]
  exact stripped_of_ends (fun _ => first_of_stripped) fun _ => last_of_stripped

theorem parse?_eq_of_cleaned (same : cleaned other = cleaned text) : parse? other = parse? text := by
  unfold parse?
  rw [same]

theorem parse?_cleaned (text : Text) : parse? (cleaned text) = parse? text :=
  parse?_eq_of_cleaned (cleaned_cleaned text)

theorem unbroken_breaks {breaks : Text} (within : ∀ character ∈ breaks, isBreak character = true) (front back : Text) :
    unbroken (front ++ breaks ++ back) = unbroken (front ++ back) := by
  have gone : unbroken breaks = [] := by
    rw [unbroken, List.filter_eq_nil_iff]
    intro character among
    rw [within character among]
    decide
  simp only [unbroken, List.filter_append] at gone ⊢
  rw [gone, List.append_nil]

theorem stripped_padded {lead trail : Text} (before : ∀ character ∈ lead, isControlOrSpace character = true)
    (behind : ∀ character ∈ trail, isControlOrSpace character = true) (text : Text) :
    stripped (lead ++ text ++ trail) = stripped text := by
  rw [stripped, stripped, List.append_assoc, List.dropWhile_append_of_pos before, List.dropWhile_append]
  split
  · rename_i blank
    rw [List.isEmpty_iff.mp blank, List.dropWhile_eq_nil_iff.mpr behind]
  · rw [List.rdropWhile, List.reverse_append, List.dropWhile_append_of_pos, List.rdropWhile]
    intro character among
    exact behind character (List.mem_reverse.mp among)

/-- Controls and spaces around a text, and breaks within it, make no difference to how it is read. -/
theorem cleaned_padded {lead trail breaks : Text} (before : ∀ character ∈ lead, isControlOrSpace character = true)
    (behind : ∀ character ∈ trail, isControlOrSpace character = true)
    (within : ∀ character ∈ breaks, isBreak character = true) (front back : Text) :
    cleaned (lead ++ (front ++ breaks ++ back) ++ trail) = cleaned (front ++ back) := by
  rw [cleaned_eq_unbroken, stripped_padded before behind, ← cleaned_eq_unbroken, cleaned_eq_stripped,
    unbroken_breaks within, ← cleaned_eq_stripped]

theorem begins_of_splitScheme? (split : splitScheme? text = some (scheme, rest)) :
    scheme ++ [':'] <+: Text.asciiLower text := by
  have whole : text.takeWhile isSchemeChar ++ text.drop (text.takeWhile isSchemeChar).length = text :=
    List.prefix_iff_eq_append.mp (List.takeWhile_prefix _)
  simp only [splitScheme?] at split
  split at split
  · rename_i tail
    split at split
    · cases split
      rw [tail] at whole
      have lower := congrArg Text.asciiLower whole
      rw [Text.asciiLower, List.map_append, List.map_cons] at lower
      exact ⟨Text.asciiLower rest, (List.append_assoc _ _ _).trans lower⟩
    · cases split
  · cases split

theorem literal_cleaned (read : (parse? text).isSome = true) : Literal (cleaned text) := by
  obtain ⟨address, read⟩ := Option.isSome_iff_exists.mp read
  obtain ⟨scheme, rest, split, known⟩ := scheme_of_parse? read
  refine ⟨⟨scheme, known, begins_of_splitScheme? split⟩, ?_, ?_, fun _ => whole_of_cleaned⟩
  · intro space
    rw [cleaned_eq_stripped] at space
    exact absurd (first_of_stripped space) (by decide)
  · intro space
    rw [cleaned_eq_stripped] at space
    exact absurd (last_of_stripped space) (by decide)

-- A control has no lower case of its own, and no scheme has one in it.
theorem first_of_namesScheme (named : NamesScheme text) (first : text.head? = some character) :
    isControlOrSpace character = false := by
  obtain ⟨scheme, known, rest, whole⟩ := named
  obtain ⟨letter, begins, proper⟩ : ∃ letter, scheme.head? = some letter ∧ isControlOrSpace letter = false := by
    simp only [schemes, List.mem_cons, List.not_mem_nil, or_false] at known
    rcases known with rfl | rfl | rfl
    · exact ⟨'h', rfl, rfl⟩
    · exact ⟨'h', rfl, rfl⟩
    · exact ⟨'f', rfl, rfl⟩
  have lower : character.toLower = letter := by
    have same := congrArg List.head? whole
    rw [Text.asciiLower, List.head?_map, first, List.append_assoc, List.head?_append, begins, Option.some_or] at same
    exact (Option.some.inj same).symm
  by_contra control
  rw [Bool.not_eq_false] at control
  have same : character.toLower = character := by
    refine dif_neg ?_
    rintro ⟨capital, -⟩
    have small : character.toNat ≤ 0x20 := of_decide_eq_true control
    have large : 65 ≤ character.toNat := UInt32.le_iff_toNat_le.mp capital
    omega
  rw [← lower, same, control] at proper
  cases proper

theorem literal_iff (read : (parse? text).isSome = true) : Literal text ↔
    (∀ character, text.head? = some character → isControlOrSpace character = false) ∧ text.getLast? ≠ some ' ' ∧
      ∀ character ∈ text, isBreak character = false := by
  constructor
  · intro literal
    exact ⟨fun _ => first_of_namesScheme literal.scheme, literal.last, literal.whole⟩
  · rintro ⟨first, last, whole⟩
    obtain ⟨scheme, known, begins⟩ := (literal_cleaned read).scheme
    have starts : cleaned text <+: text := by
      rw [cleaned_eq_stripped, unbroken_of_whole whole, stripped, dropWhile_of_first first]
      exact List.rdropWhile_prefix _ _
    refine ⟨⟨scheme, known, begins.trans (starts.map Char.toLower)⟩, ?_, last, whole⟩
    intro space
    exact absurd (first ' ' space) (by decide)

end

end Address

namespace AddressOption

def argument : AddressOption → Text
  | .findLinks => "--find-links"
  | .indexUrl => "--index-url"
  | .extraIndexUrl => "--extra-index-url"

def slot : AddressOption → InstallOption
  | .findLinks => .findLinks
  | .indexUrl => .indexUrl
  | .extraIndexUrl => .extraIndexUrl

end AddressOption

theorem Tokens.fault?_address_eq_none_iff {name text : Text} {option : AddressOption} (given : text ≠ []) :
    fault? (address name option (some text)) = none ↔ (Address.parse? text).isSome = true := by
  have there : Tokens.given (some text) = some text := given_eq_some_iff.mpr ⟨rfl, given⟩
  simp only [address, there]
  cases (Address.parse? text).isSome <;> simp [fault?]

namespace InstallRequest

def address (request : InstallRequest) : AddressOption → Option Text
  | .findLinks => request.findLinks
  | .indexUrl => request.indexUrl
  | .extraIndexUrl => request.extraIndexUrl

def withAddress (request : InstallRequest) (option : AddressOption) (text : Text) : InstallRequest :=
  match option with
  | .findLinks => { request with findLinks := some text }
  | .indexUrl => { request with indexUrl := some text }
  | .extraIndexUrl => { request with extraIndexUrl := some text }

variable {world : World} {request : InstallRequest} {option : AddressOption} {plan : Plan} {text other : Text}

theorem part_address (world : World) (request : InstallRequest) (option : AddressOption) :
    request.part world option.slot = .address option.argument option (request.address option) := by
  cases option <;> rfl

@[simp] theorem address_withAddress : (request.withAddress option text).address option = some text := by
  cases option <;> rfl

theorem part_withAddress {slot : InstallOption} (apart : slot ≠ option.slot) :
    (request.withAddress option text).part world slot = request.part world slot := by
  cases option <;> cases slot <;> first | rfl | exact (apart rfl).elim

theorem namesSomething_withAddress : (request.withAddress option text).namesSomething = request.namesSomething := by
  cases option <;> rfl

theorem disabledIndex_withAddress (said : request.address option = some text) (given : text ≠ [])
    (unnamed : request.disabledIndex = none) : (request.withAddress option other).disabledIndex = none := by
  rw [disabledIndex_eq_none_iff] at unnamed ⊢
  rintro ⟨off, named, proper, spelled⟩
  cases option with
  | findLinks => exact unnamed ⟨off, named, proper, spelled⟩
  | indexUrl => exact unnamed ⟨off, text, given, Or.inl said⟩
  | extraIndexUrl => exact unnamed ⟨off, text, given, Or.inr said⟩

theorem read_of_plan (planned : request.plan world = .ok plan) (said : request.address option = some text)
    (given : text ≠ []) : (Address.parse? text).isSome = true := by
  have sound := (whole_of_plan planned).2 option.slot
  rwa [part_address, said, Tokens.fault?_address_eq_none_iff given] at sound

theorem exists_plan_withAddress (planned : request.plan world = .ok plan) (said : request.address option = some text)
    (given : text ≠ []) (proper : other ≠ []) (read : (Address.parse? other).isSome = true) :
    ∃ plan, (request.withAddress option other).plan world = .ok plan := by
  obtain ⟨purpose, unnamed, sound⟩ := exists_plan_iff_parts.mp ⟨plan, planned⟩
  rw [exists_plan_iff_parts, namesSomething_withAddress]
  refine ⟨purpose, disabledIndex_withAddress said given unnamed, fun slot => ?_⟩
  by_cases same : slot = option.slot
  · rwa [same, part_address, address_withAddress, Tokens.fault?_address_eq_none_iff proper]
  · rw [part_withAddress same]
    exact sound slot

theorem values_address (planned : request.plan world = .ok plan) (said : request.address option = some text)
    (given : text ≠ []) : Tokens.values option.argument plan.trailing = [text] := by
  obtain ⟨rfl, sound⟩ := whole_of_plan planned
  have told := sound option.slot
  have listed : option.argument ∈ option.slot.names := by cases option <;> decide
  have behind : option.slot ∈ InstallOption.early ++ InstallOption.late := by cases option <;> decide
  rw [part_address] at told
  rw [values_trailing listed behind, part_address, Tokens.values_address told,
    Tokens.given_eq_some_iff.mpr ⟨said, given⟩, Option.toList_some]

end InstallRequest

/-- What is looked at of an address is the text without the controls and spaces around it and the breaks in it, and that
names its scheme at once; what pip is given is the text as it stands, which does so just if it has none of them in front
of it or in it, and has no space at its end. Every other spelling that is cleaned to the same text is accepted in its
place, and passed on as it is spelled. -/
theorem addresses_passed_uncleaned {world : World} {request : InstallRequest} {plan : Plan} {option : AddressOption}
    {text : Text} (planned : request.plan world = .ok plan) (said : request.address option = some text)
    (given : text ≠ []) :
    Tokens.values option.argument plan.trailing = [text] ∧
    Address.parse? (Address.cleaned text) = Address.parse? text ∧ Address.Literal (Address.cleaned text) ∧
    (Address.Literal text ↔
      (∀ character, text.head? = some character → Address.isControlOrSpace character = false) ∧
        text.getLast? ≠ some ' ' ∧ ∀ character ∈ text, Address.isBreak character = false) ∧
    ∀ other, Address.cleaned other = Address.cleaned text →
      ∃ plan : Plan, (request.withAddress option other).plan world = .ok plan ∧
        Tokens.values option.argument plan.trailing = [other] := by
  have read := InstallRequest.read_of_plan planned said given
  refine ⟨InstallRequest.values_address planned said given, Address.parse?_cleaned text, Address.literal_cleaned read,
    Address.literal_iff read, ?_⟩
  intro other same
  have also : (Address.parse? other).isSome = true := by rwa [Address.parse?_eq_of_cleaned same]
  have proper : other ≠ [] := by
    rintro rfl
    cases also
  obtain ⟨second, replanned⟩ := InstallRequest.exists_plan_withAddress planned said given proper also
  exact ⟨second, replanned, InstallRequest.values_address replanned InstallRequest.address_withAddress proper⟩

def plainIndexRequest : InstallRequest where
  packages := some (.joined "six")
  indexUrl := some "HTTP://h/"

theorem addresses_passed_uncleaned_padded :
    let world : World := { disk := {}, host := { folder := [] } }
    ∃ plan : Plan, (plainIndexRequest.withAddress .indexUrl " \u0001HT\nTP://h/\t ").plan world = .ok plan ∧
      Tokens.values "--index-url" plan.trailing = [(" \u0001HT\nTP://h/\t " : Text)] := by
  intro world
  have planned : plainIndexRequest.plan world = .ok (plainIndexRequest.wholePlan world) := by decide +kernel
  have said : plainIndexRequest.address .indexUrl = some "HTTP://h/" := rfl
  obtain ⟨-, -, -, -, others⟩ := addresses_passed_uncleaned planned said (by decide)
  have before : ∀ character ∈ (" \u0001" : Text), Address.isControlOrSpace character = true :=
    List.all_eq_true.mp (by decide)
  have behind : ∀ character ∈ ("\t " : Text), Address.isControlOrSpace character = true :=
    List.all_eq_true.mp (by decide)
  have within : ∀ character ∈ ("\n" : Text), Address.isBreak character = true :=
    List.all_eq_true.mp (by decide)
  exact others _ (Address.cleaned_padded before behind within "HT" "TP://h/")

/-- Texts that are accepted and passed on, but name no scheme where they begin or end in a space. -/
theorem addresses_accepted_unclean :
    let world : World := { disk := {}, host := { folder := [] } }
    let request (text : Text) : InstallRequest := { packages := some (.joined "six"), indexUrl := some text }
    ∀ text ∈ ([" http://h/", "ht\ntp://h/", "http://h/ "] : List Text),
      (∃ plan : Plan, (request text).plan world = .ok plan ∧ Tokens.values "--index-url" plan.trailing = [text]) ∧
        ¬Address.Literal text := by
  intro world request text among
  have planned : ∀ text ∈ ([" http://h/", "ht\ntp://h/", "http://h/ "] : List Text),
      (request text).plan world = .ok ((request text).wholePlan world) ∧
        Tokens.values "--index-url" ((request text).wholePlan world).trailing = [text] := by decide +kernel
  refine ⟨⟨_, planned text among⟩, fun literal => ?_⟩
  simp only [List.mem_cons, List.not_mem_nil, or_false] at among
  rcases among with rfl | rfl | rfl
  · exact absurd literal.first (by decide)
  · exact absurd literal.scheme (by decide)
  · exact absurd literal.last (by decide)

end PipDriver
