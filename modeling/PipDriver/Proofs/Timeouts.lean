import Mathlib.Data.Nat.Digits.Defs
import Mathlib.Tactic.Ring
import PipDriver.Proofs.Agreement
import PipDriver.Proofs.Orders

/-!
Time limits. A text is taken as one just if it is a decimal number that fits into sixty-four bits with its sign, read
place by place; of a request that is sound otherwise it then makes one more argument, and nothing else is held against
the request where it is not.
-/

namespace PipDriver

namespace Timeout

def digitOf (digit : Char) : Nat := digit.toNat - '0'.toNat

def magnitude (digits : Text) : Nat := Nat.ofDigits 10 (digits.reverse.map digitOf)

structure IsDecimal (digits : Text) : Prop where
  given : digits ≠ []
  decimal : ∀ digit ∈ digits, digit.isDigit = true

inductive Reads : Text → Int → Prop
  | unsigned {digits : Text} (decimal : IsDecimal digits) : Reads digits (magnitude digits)
  | positive {digits : Text} (decimal : IsDecimal digits) : Reads ('+' :: digits) (magnitude digits)
  | negative {digits : Text} (decimal : IsDecimal digits) : Reads ('-' :: digits) (-magnitude digits)

def Fits (text : Text) : Prop := ∃ number, Reads text number ∧ -2 ^ 63 ≤ number ∧ number ≤ 2 ^ 63 - 1

section

variable {text digits rest : Text} {value : Nat} {number : Int}

theorem magnitude_cons (digit : Char) (rest : Text) :
    magnitude (digit :: rest) = digitOf digit * 10 ^ rest.length + magnitude rest := by
  rw [magnitude, List.reverse_cons, List.map_append, Nat.ofDigits_append, List.length_map, List.length_reverse,
    List.map_singleton, Nat.ofDigits_singleton, magnitude]
  ring

theorem foldl_eq_magnitude (start : Nat) (digits : Text) :
    digits.foldl (fun value digit => value * 10 + (digit.toNat - '0'.toNat)) start =
      start * 10 ^ digits.length + magnitude digits := by
  induction digits generalizing start with
  | nil => simp [magnitude]
  | cons digit rest ih =>
      rw [List.foldl_cons, ih, magnitude_cons, List.length_cons, digitOf]
      ring

theorem digits?_eq_some_iff : digits? text = some value ↔ IsDecimal text ∧ value = magnitude text := by
  have read := foldl_eq_magnitude 0 text
  rw [Nat.zero_mul, Nat.zero_add] at read
  unfold digits?
  split
  · rename_i shape
    have decimal : IsDecimal text := by
      simp only [Bool.and_eq_true, decide_eq_true_eq, List.all_eq_true] at shape
      exact ⟨shape.1, shape.2⟩
    rw [read, Option.some.injEq]
    constructor
    · rintro rfl
      exact ⟨decimal, rfl⟩
    · rintro ⟨-, rfl⟩
      rfl
  · rename_i other
    constructor
    · intro found
      cases found
    · rintro ⟨⟨given, decimal⟩, -⟩
      exact (other (by simpa using ⟨given, decimal⟩)).elim

theorem not_isDecimal_cons {first : Char} (sign : first.isDigit = false) : ¬IsDecimal (first :: rest) := by
  intro decimal
  have digit := decimal.decimal first List.mem_cons_self
  rw [sign] at digit
  cases digit

theorem reads_minus_iff : Reads ('-' :: rest) number ↔ IsDecimal rest ∧ number = -magnitude rest := by
  constructor
  · intro reads
    cases reads with
    | unsigned decimal => exact (not_isDecimal_cons rfl decimal).elim
    | negative decimal => exact ⟨decimal, rfl⟩
  · rintro ⟨decimal, rfl⟩
    exact .negative decimal

theorem reads_plus_iff : Reads ('+' :: rest) number ↔ IsDecimal rest ∧ number = magnitude rest := by
  constructor
  · intro reads
    cases reads with
    | unsigned decimal => exact (not_isDecimal_cons rfl decimal).elim
    | positive decimal => exact ⟨decimal, rfl⟩
  · rintro ⟨decimal, rfl⟩
    exact .positive decimal

theorem reads_unsigned_iff (minus : ∀ rest, text ≠ '-' :: rest) (plus : ∀ rest, text ≠ '+' :: rest) :
    Reads text number ↔ IsDecimal text ∧ number = magnitude text := by
  constructor
  · intro reads
    cases reads with
    | unsigned decimal => exact ⟨decimal, rfl⟩
    | positive _ => exact (plus _ rfl).elim
    | negative _ => exact (minus _ rfl).elim
  · rintro ⟨decimal, rfl⟩
    exact .unsigned decimal

theorem inRange_iff : inRange number = true ↔ -2 ^ 63 ≤ number ∧ number ≤ 2 ^ 63 - 1 := by
  unfold inRange lowest highest
  rw [Bool.and_eq_true, decide_eq_true_iff, decide_eq_true_iff]
  omega

theorem map_digits?_eq_some_iff {signed : Nat → Int} :
    (digits? rest).map signed = some number ↔ IsDecimal rest ∧ number = signed (magnitude rest) := by
  simp only [Option.map_eq_some_iff, digits?_eq_some_iff]
  constructor
  · rintro ⟨_, ⟨decimal, rfl⟩, rfl⟩
    exact ⟨decimal, rfl⟩
  · rintro ⟨decimal, rfl⟩
    exact ⟨_, ⟨decimal, rfl⟩, rfl⟩

theorem number?_eq_some_iff :
    number? text = some number ↔ Reads text number ∧ -2 ^ 63 ≤ number ∧ number ≤ 2 ^ 63 - 1 := by
  unfold number?
  rw [Option.filter_eq_some_iff, inRange_iff]
  refine and_congr_left fun _ => ?_
  split
  · rename_i rest
    have negated : (Option.map (fun magnitude => -magnitude) do let value ← digits? rest; pure (value : Int)) =
        (digits? rest).map fun value : Nat => -(value : Int) := by
      cases digits? rest <;> rfl
    rw [negated, map_digits?_eq_some_iff, reads_minus_iff]
  · rw [map_digits?_eq_some_iff, reads_plus_iff]
    rfl
  · rename_i minus plus
    rw [map_digits?_eq_some_iff, reads_unsigned_iff minus plus]
    rfl

theorem isSome_accepted?_iff : (accepted? text).isSome = true ↔ Fits text.trim := by
  have read : (number? text.trim).isSome = true ↔ Fits text.trim := by
    rw [Option.isSome_iff_exists, Fits]
    exact exists_congr fun number => number?_eq_some_iff
  rw [← read, accepted?]
  cases (number? text.trim).isSome <;> rfl

theorem accepted?_of_fits (fits : Fits text.trim) : accepted? text = some text.trim := by
  have read := isSome_accepted?_iff.mpr fits
  unfold accepted? at read ⊢
  split at read
  · rename_i number
    rw [if_pos number]
  · cases read

end

end Timeout

namespace Tokens

variable {text name : Text}

theorem timeout_of_fits (given : text ≠ []) (fits : Timeout.Fits text.trim) :
    timeout (some text) = .ok [setting "--timeout" text.trim] := by
  have there : Tokens.given (some text) = some text := given_eq_some_iff.mpr ⟨rfl, given⟩
  simp only [timeout, there, Timeout.accepted?_of_fits fits]

theorem timeout_of_not_fits (given : text ≠ []) (other : ¬Timeout.Fits text.trim) :
    timeout (some text) = .error (.invalid (.badTimeout text)) := by
  have there : Tokens.given (some text) = some text := given_eq_some_iff.mpr ⟨rfl, given⟩
  rw [← Timeout.isSome_accepted?_iff, Option.not_isSome_iff_eq_none] at other
  simp only [timeout, there, other]

theorem values_of_silent {parts : List Tokens} (silent : ∀ part ∈ parts, values name (accepted part) = []) :
    values name (parts.flatMap accepted) = [] := by
  rw [values, List.filterMap_flatMap, List.flatMap_eq_nil_iff]
  exact silent

end Tokens

structure SettlesTimeout (plan : Plan) (planned : Option Text → Except Failure Plan) (text : Text) : Prop where
  accepted : (∃ timed, planned (some text) = .ok timed) ↔ Timeout.Fits text.trim
  said : ∀ timed, planned (some text) = .ok timed → Tokens.values "--timeout" timed.trailing = [text.trim]
  kept : ∀ timed, planned (some text) = .ok timed → ∃ before after, plan.trailing = before ++ after ∧
    timed = { plan with trailing := before ++ (("--timeout=" : Text) ++ text.trim) :: after }
  refused : ¬Timeout.Fits text.trim → ∃ complaint : Complaint, planned (some text) = .error (.invalid complaint) ∧
    complaint.field = "timeout" ∧ complaint.value = text

section

variable {leading before after : List Tokens} {source : Option Source} {plan : Plan} {text : Text}

theorem settlesTimeout_of_parts (given : text ≠ [])
    (silent : ∀ part ∈ before ++ after, Tokens.values "--timeout" (Tokens.accepted part) = [])
    (made : Plan.ofParts leading (before ++ .timeout none :: after) source = .ok plan) :
    SettlesTimeout plan (fun timeout => Plan.ofParts leading (before ++ .timeout timeout :: after) source) text := by
  obtain ⟨trailing, placed⟩ := Plan.ofParts_slot made
  have ahead : Tokens.values "--timeout" (before.flatMap Tokens.accepted) = [] :=
    Tokens.values_of_silent fun part among => silent part (List.mem_append_left _ among)
  have behind : Tokens.values "--timeout" (after.flatMap Tokens.accepted) = [] :=
    Tokens.values_of_silent fun part among => silent part (List.mem_append_right _ among)
  by_cases fits : Timeout.Fits text.trim
  · have whole : Plan.ofParts leading (before ++ .timeout (some text) :: after) source =
        .ok { plan with
          trailing := before.flatMap Tokens.accepted ++ [Tokens.setting "--timeout" text.trim] ++
            after.flatMap Tokens.accepted } := by
      rw [Tokens.timeout_of_fits given fits]
      exact placed (.ok _)
    constructor
    · exact iff_of_true ⟨_, whole⟩ fits
    · intro timed planned
      cases whole.symm.trans planned
      rw [Tokens.values] at ahead behind ⊢
      rw [List.filterMap_append, List.filterMap_append, ahead, behind, List.nil_append, List.append_nil]
      exact Tokens.values_setting text.trim
    · intro timed planned
      cases whole.symm.trans planned
      refine ⟨_, _, trailing, ?_⟩
      rw [List.append_assoc, List.singleton_append]
      rfl
    · intro other
      exact (other fits).elim
  · have broken : Plan.ofParts leading (before ++ .timeout (some text) :: after) source =
        .error (.invalid (.badTimeout text)) := by
      rw [Tokens.timeout_of_not_fits given fits]
      exact placed (.error _)
    constructor
    · refine iff_of_false ?_ fits
      rintro ⟨timed, planned⟩
      cases broken.symm.trans planned
    · intro timed planned
      cases broken.symm.trans planned
    · intro timed planned
      cases broken.symm.trans planned
    · intro _
      exact ⟨_, broken, rfl, rfl⟩

end

section

variable {world : World} {plan : Plan} {text : Text}

theorem InstallRequest.settlesTimeout {request : InstallRequest} (given : text ≠ [])
    (planned : InstallRequest.plan world { request with timeout := none } = .ok plan) :
    SettlesTimeout plan (fun timeout => InstallRequest.plan world { request with timeout }) text := by
  let before := ([.log, .proxy] : List InstallOption).map (request.part world)
  let after := request.part world .findLinks ::
    .indexConflict request.noIndex request.indexUrl request.extraIndexUrl :: InstallOption.late.map (request.part world)
  have parts (timeout : Option Text) : InstallRequest.plan world { request with timeout } =
      if request.namesSomething then
        Plan.ofParts request.leadingParts (before ++ .timeout timeout :: after) request.requirements
      else .error (.invalid .nothingToInstall) := rfl
  have silent : ∀ part ∈ before ++ after, Tokens.values "--timeout" (Tokens.accepted part) = [] := by
    have listed : ("--timeout" : Text) ∈ InstallOption.timeout.names := by decide
    have others : ∀ option : InstallOption, option ∈ ([.log, .proxy, .findLinks] ++ InstallOption.late) →
        option ≠ .timeout := by decide
    intro part among
    simp only [before, after, List.mem_append, List.mem_cons, List.mem_map] at among
    rcases among with ⟨option, early, rfl⟩ | rfl | rfl | ⟨option, late, rfl⟩
    · exact values_of_other_part listed (others option (by grind))
    · exact values_of_other_part listed (others .findLinks (by decide))
    · rw [Tokens.accepted_indexConflict]
      rfl
    · exact values_of_other_part listed (others option (List.mem_append_right _ late))
  simp only [parts] at planned ⊢
  split at planned
  · rename_i purpose
    simpa only [purpose, if_true] using settlesTimeout_of_parts given silent planned
  · cases planned

theorem UninstallRequest.settlesTimeout {request : UninstallRequest} (given : text ≠ [])
    (planned : UninstallRequest.plan world { request with timeout := none } = .ok plan) :
    SettlesTimeout plan (fun timeout => UninstallRequest.plan world { request with timeout }) text := by
  let before := ([.log, .proxy] : List InstallOption).map (request.asInstall.part world)
  have parts (timeout : Option Text) : UninstallRequest.plan world { request with timeout } =
      if request.namesSomething then
        Plan.ofParts request.leadingParts (before ++ .timeout timeout :: []) request.requirements
      else .error (.invalid .nothingToRemove) := rfl
  have silent : ∀ part ∈ before ++ [], Tokens.values "--timeout" (Tokens.accepted part) = [] := by
    have listed : ("--timeout" : Text) ∈ InstallOption.timeout.names := by decide
    have others : ∀ option : InstallOption, option ∈ ([.log, .proxy] : List InstallOption) → option ≠ .timeout := by
      decide
    intro part among
    rw [List.append_nil] at among
    obtain ⟨option, early, rfl⟩ := List.mem_map.mp among
    exact InstallRequest.values_of_other_part listed (others option early)
  simp only [parts] at planned ⊢
  split at planned
  · rename_i purpose
    simpa only [purpose, if_true] using settlesTimeout_of_parts given silent planned
  · cases planned

end

/-- A time limit that is not empty is accepted, in a request that is sound without one, just if it is a decimal number
that fits into sixty-four bits, with blanks around it or not. It then makes one argument, without the blanks, and
nothing else in the plan changes; otherwise the request is refused for it. -/
theorem timeouts_accepted_as_numbers (world : World) {text : Text} (given : text ≠ []) :
    (∀ (request : InstallRequest) (plan : Plan),
      InstallRequest.plan world { request with timeout := none } = .ok plan →
        SettlesTimeout plan (fun timeout => InstallRequest.plan world { request with timeout }) text) ∧
    ∀ (request : UninstallRequest) (plan : Plan),
      UninstallRequest.plan world { request with timeout := none } = .ok plan →
        SettlesTimeout plan (fun timeout => UninstallRequest.plan world { request with timeout }) text := by
  constructor
  · intro request plan planned
    exact InstallRequest.settlesTimeout given planned
  · intro request plan planned
    exact UninstallRequest.settlesTimeout given planned

def longTimeout : Text := "\u2003-009223372036854775808\n"

def greatTimeout : Text := "9223372036854775808"

theorem timeouts_accepted_as_numbers_least :
    let world : World := { disk := {}, host := { folder := [] } }
    let install (timeout : Text) := InstallRequest.plan world { offlineRequest with timeout := some timeout }
    let removal (timeout : Text) := UninstallRequest.plan world { removalRequest with timeout := some timeout }
    (∃ timed : Plan, install longTimeout = .ok timed ∧
      Tokens.values "--timeout" timed.trailing = [("-009223372036854775808" : Text)]) ∧
    ∃ complaint : Complaint, removal greatTimeout = .error (.invalid complaint) ∧ complaint.field = "timeout" ∧
      complaint.value = greatTimeout := by
  intro world install removal
  have long : longTimeout ≠ [] := by decide
  have great : greatTimeout ≠ [] := by decide
  have sound : InstallRequest.plan world { offlineRequest with timeout := none } = .ok
      (InstallRequest.wholePlan world { offlineRequest with timeout := none }) := by decide +kernel
  have also : UninstallRequest.plan world { removalRequest with timeout := none } = .ok
      ⟨["uninstall", "-y", "six", "--timeout=abc"], none, []⟩ := by decide +kernel
  have fits : Timeout.Fits longTimeout.trim := Timeout.isSome_accepted?_iff.mp (by decide +kernel)
  have beyond : ¬Timeout.Fits greatTimeout.trim := by
    rw [← Timeout.isSome_accepted?_iff]
    decide +kernel
  have installs := (timeouts_accepted_as_numbers world long).1 offlineRequest _ sound
  have removals := (timeouts_accepted_as_numbers world great).2 removalRequest _ also
  obtain ⟨timed, planned⟩ := installs.accepted.mpr fits
  exact ⟨⟨timed, planned, (installs.said timed planned).trans (by decide)⟩, removals.refused beyond⟩

end PipDriver
