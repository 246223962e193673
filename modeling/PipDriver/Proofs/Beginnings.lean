import Mathlib.Data.List.TakeWhile
import PipDriver.Proofs.Inventory

/-!
Lower case of a text and of what it begins with. The two agree unless the beginning ends in a capital sigma that only
there ends a word, so names are selected by what they begin with in all other cases.
-/

namespace PipDriver

namespace Text

def lowerBetween (before : Text) (character : Char) (after : Text) : Text :=
  if character = 'Σ' then (if sigmaEndsWord before after then ['ς'] else ['σ']) else lowerChar character

def lowerWithin (before : Text) : Text → Text → Text
  | [], _ => []
  | character :: rest, after =>
    lowerBetween before character (rest ++ after) ++ lowerWithin (character :: before) rest after

def Skipped (text : Text) : Prop := ∀ character ∈ text, caseIgnorableRanges.contains character = true

def EndsInSigma (text : Text) : Prop :=
  ∃ front skipped, text = front ++ 'Σ' :: skipped ∧ Skipped skipped ∧ casedNext front.reverse = true

/-- The last word of the beginning, which a sigma ended, goes on in the rest. -/
def GoesOn (start rest : Text) : Prop := EndsInSigma start ∧ casedNext rest = true

variable {text before start rest first second after skipped : Text}

theorem lowerAfter_append (before text after : Text) :
    lowerAfter before (text ++ after) = lowerWithin before text after ++ lowerAfter (text.reverse ++ before) after := by
  induction text generalizing before with
  | nil => rfl
  | cons character rest ih => simp [lowerAfter, lowerWithin, lowerBetween, ih]

theorem lower_append (start rest : Text) :
    lower (start ++ rest) = lowerWithin [] start rest ++ lowerAfter start.reverse rest := by
  rw [lower, lowerAfter_append, List.append_nil]

theorem lower_eq (text : Text) : lower text = lowerWithin [] text [] := by
  have whole := lower_append text []
  rwa [List.append_nil, lowerAfter, List.append_nil] at whole

theorem casedNext_skipped (idle : Skipped skipped) (after : Text) : casedNext (skipped ++ after) = casedNext after := by
  rw [casedNext, List.dropWhile_append_of_pos idle, casedNext]

theorem casedNext_of_skipped (idle : Skipped skipped) : casedNext skipped = false := by
  have passed := casedNext_skipped idle []
  rwa [List.append_nil] at passed

theorem casedNext_append (heard : ¬Skipped text) (after : Text) : casedNext (text ++ after) = casedNext text := by
  have left : ¬(text.dropWhile caseIgnorableRanges.contains).isEmpty = true := by
    rw [List.isEmpty_iff, List.dropWhile_eq_nil_iff]
    exact heard
  rw [casedNext, List.dropWhile_append, if_neg left, casedNext]
  cases kept : text.dropWhile caseIgnorableRanges.contains with
  | nil => exact (left (by rw [kept]; rfl)).elim
  | cons character rest => rfl

theorem casedNext_sigma (after : Text) : casedNext ('Σ' :: after) = true := by
  have kept : ¬caseIgnorableRanges.contains 'Σ' = true := by decide +kernel
  have cased : casedRanges.contains 'Σ' = true := by decide +kernel
  rw [casedNext, List.dropWhile_cons_of_neg kept]
  exact cased

theorem lowerBetween_congr (before : Text) (character : Char) (same : casedNext first = casedNext second) :
    lowerBetween before character first = lowerBetween before character second := by
  rw [lowerBetween, lowerBetween, sigmaEndsWord, sigmaEndsWord, same]

/-- What follows a stretch matters by its first character that is not passed over. -/
theorem lowerWithin_congr (before text : Text) (same : casedNext first = casedNext second) :
    lowerWithin before text first = lowerWithin before text second := by
  induction text generalizing before with
  | nil => rfl
  | cons character rest ih =>
      have next : casedNext (rest ++ first) = casedNext (rest ++ second) := by
        by_cases idle : Skipped rest
        · rw [casedNext_skipped idle, casedNext_skipped idle, same]
        · rw [casedNext_append idle, casedNext_append idle]
      rw [lowerWithin, lowerWithin, lowerBetween_congr before character next, ih]

/-- What follows a stretch does not matter where no sigma waits for it. -/
theorem lowerWithin_closed (closed : ¬EndsInSigma (before.reverse ++ text)) :
    lowerWithin before text first = lowerWithin before text second := by
  -- A character goes from the stretch to what stands before it, so the text of both together stays the same.
  induction text generalizing before with
  | nil => rfl
  | cons character rest ih =>
      have tail : ¬EndsInSigma ((character :: before).reverse ++ rest) := by
        rwa [List.reverse_cons, List.append_assoc, List.singleton_append]
      have head : lowerBetween before character (rest ++ first) = lowerBetween before character (rest ++ second) := by
        by_cases idle : Skipped rest
        · by_cases sigma : character = 'Σ'
          · subst sigma
            have alone : casedNext before = false := by
              by_contra cased
              refine closed ⟨before.reverse, rest, rfl, idle, ?_⟩
              rwa [List.reverse_reverse, ← Bool.not_eq_false]
            simp only [lowerBetween, sigmaEndsWord, alone, Bool.false_and]
          · rw [lowerBetween, lowerBetween, if_neg sigma, if_neg sigma]
        · exact lowerBetween_congr before character (by rw [casedNext_append idle, casedNext_append idle])
      rw [lowerWithin, lowerWithin, head, ih tail]

theorem lower_isPrefix (fits : ¬GoesOn start rest) : lower start <+: lower (start ++ rest) := by
  rw [lower_append, lower_eq]
  refine ⟨lowerAfter start.reverse rest, congrArg (· ++ _) ?_⟩
  by_cases ended : EndsInSigma start
  · refine lowerWithin_congr [] start ?_
    have idle : casedNext rest = false := by
      by_contra cased
      exact fits ⟨ended, by rwa [← Bool.not_eq_false]⟩
    rw [idle]
    rfl
  · exact lowerWithin_closed ended

/-- Where a word goes on, its sigma has one form in the beginning and the other in the whole. -/
theorem lower_parts (goes : GoesOn start rest) : ∃ head ending others,
    lower start = head ++ 'ς' :: ending ∧ lower (start ++ rest) = head ++ 'σ' :: others := by
  obtain ⟨⟨front, skipped, rfl, idle, cased⟩, next⟩ := goes
  have ends : sigmaEndsWord front.reverse skipped = true := by
    rw [sigmaEndsWord, cased, casedNext_of_skipped idle]
    rfl
  have stays : sigmaEndsWord front.reverse (skipped ++ rest) = false := by
    rw [sigmaEndsWord, cased, casedNext_skipped idle, next]
    rfl
  have heads : lowerWithin [] front ('Σ' :: skipped) = lowerWithin [] front ('Σ' :: (skipped ++ rest)) :=
    lowerWithin_congr [] front (by rw [casedNext_sigma, casedNext_sigma])
  refine ⟨lowerWithin [] front ('Σ' :: skipped), lowerAfter ('Σ' :: front.reverse) skipped,
    lowerAfter ('Σ' :: front.reverse) (skipped ++ rest), ?_, ?_⟩
  · rw [lower_append, lowerAfter, if_pos rfl, if_pos ends]
    rfl
  · rw [List.append_assoc, List.cons_append, lower_append, ← heads, lowerAfter, if_pos rfl,
      if_neg (by rw [stays]; decide)]
    rfl

theorem lower_apart (goes : GoesOn start rest) (fits : lower start <+: text) : ¬lower (start ++ rest) <+: text := by
  obtain ⟨head, ending, others, one, two⟩ := lower_parts goes
  rw [one] at fits
  rw [two]
  rintro ⟨more, same⟩
  obtain ⟨tail, rfl⟩ := fits
  rw [List.append_assoc, List.append_assoc] at same
  have letters := (List.cons.inj (List.append_cancel_left same)).1
  exact absurd letters (by decide)

theorem lower_isPrefix_iff : lower start <+: lower (start ++ rest) ↔ ¬GoesOn start rest :=
  ⟨fun begins goes => lower_apart goes begins (List.prefix_refl _), lower_isPrefix⟩

end Text

theorem Versions.mem_ofListing_some {listing start : Text} {entry : Text × Text} :
    entry ∈ ofListing listing (some start) ↔ entry ∈ ofListing listing none ∧ start.lower <+: entry.1.lower := by
  rw [ofListing_some, selected, List.mem_filter, Text.startsWith, List.isPrefixOf_iff_prefix]

open Text (GoesOn)

/-- A name is selected by what it begins with, and the longer of two beginnings selects among what the shorter does,
just where a word that a sigma ends in the shorter one does not go on. Where it does, the two have no name in common. -/
theorem beginnings_select (listing start rest : Text) :
    (∀ version, (start ++ rest, version) ∈ Versions.ofListing listing none →
      ((start ++ rest, version) ∈ Versions.ofListing listing (some start) ↔ ¬GoesOn start rest)) ∧
    (¬GoesOn start rest → ∀ entry ∈ Versions.ofListing listing (some (start ++ rest)),
      entry ∈ Versions.ofListing listing (some start)) ∧
    (GoesOn start rest → ∀ entry ∈ Versions.ofListing listing (some (start ++ rest)),
      entry ∉ Versions.ofListing listing (some start)) := by
  simp only [Versions.mem_ofListing_some]
  refine ⟨?_, ?_, ?_⟩
  · intro version listed
    rw [Text.lower_isPrefix_iff]
    exact and_iff_right listed
  · rintro fits entry ⟨listed, begins⟩
    exact ⟨listed, (Text.lower_isPrefix fits).trans begins⟩
  · rintro goes entry ⟨-, begins⟩ ⟨-, shorter⟩
    exact Text.lower_apart goes shorter begins

theorem beginnings_select_at_sigma :
    let listing : Text := "ΑΣΑ==1\nΑΣ-x==2"
    (("ΑΣ-x" : Text), ("2" : Text)) ∈ Versions.ofListing listing (some "ΑΣ") ∧
      (("ΑΣΑ" : Text), ("1" : Text)) ∉ Versions.ofListing listing (some "ΑΣ") ∧
      (∀ entry ∈ Versions.ofListing listing (some "ΑΣ-"), entry ∈ Versions.ofListing listing (some "ΑΣ")) ∧
      ∀ entry ∈ Versions.ofListing listing (some "ΑΣΑ"), entry ∉ Versions.ofListing listing (some "ΑΣ") := by
  intro listing
  have ended : ¬GoesOn "ΑΣ" "-" := fun goes => absurd goes.2 (by decide +kernel)
  have closed : ¬GoesOn "ΑΣ" "-x" := fun goes => absurd goes.2 (by decide +kernel)
  have goes : GoesOn "ΑΣ" "Α" :=
    ⟨⟨"Α", [], rfl, List.forall_mem_nil _, by decide +kernel⟩, by decide +kernel⟩
  obtain ⟨apart, -, disjoint⟩ := beginnings_select listing "ΑΣ" "Α"
  obtain ⟨found, -, -⟩ := beginnings_select listing "ΑΣ" "-x"
  obtain ⟨-, within, -⟩ := beginnings_select listing "ΑΣ" "-"
  exact ⟨(found "2" (by decide +kernel)).mpr closed, fun member => (apart "1" (by decide +kernel)).mp member goes,
    within ended, disjoint goes⟩

/-- A name that begins as asked for and is left out, though all of it asked for selects it. -/
theorem beginning_misses_name :
    let listing : Text := "ΑΣΑ==1"
    let entry : Text × Text := ("ΑΣΑ", "1")
    entry ∈ Versions.ofListing listing none ∧ ("ΑΣ" : Text) <+: entry.1 ∧
      entry ∉ Versions.ofListing listing (some "ΑΣ") ∧ entry ∈ Versions.ofListing listing (some entry.1) := by
  refine ⟨?_, ⟨"Α", rfl⟩, ?_, ?_⟩ <;> decide +kernel

end PipDriver
