import PipDriver.Config.Defaults
import PipDriver.Proofs.Agreement
import PipDriver.Proofs.Orders

/-!
Settings under a request. They fill gaps only, and where those of them that are checked can pass, a request that has a
plan has one with them too: the same arguments, with more of them in three places.
-/

namespace PipDriver

def Filled {α : Type} (own default filled : Option α) : Prop := filled = own ∨ own = none ∧ filled = default

theorem filled_or {α : Type} (own default : Option α) : Filled own default (own.or default) := by
  cases own with
  | none => exact Or.inr ⟨rfl, Option.none_or⟩
  | some value => exact Or.inl Option.some_or

theorem givenPath_or {own default : Option Path} {path : Path} (chosen : givenPath own = some path) :
    givenPath (own.or default) = some path := by
  cases own with
  | none => cases chosen
  | some _ => exact chosen

namespace Config

/-- What the settings say for an option would pass in a request, if they say anything. -/
def Usable (config : Config) : InstallOption → Prop
  | .timeout => ∀ text, config.timeout = some text → text ≠ [] → (Timeout.accepted? text).isSome = true
  | .indexUrl => ∀ text, config.indexUrl = some text → text ≠ [] → (Address.parse? text).isSome = true
  | _ => True

/-- The arguments that a request has for an option because of the settings. -/
def adds (config : Config) (request : InstallRequest) : InstallOption → List Text
  | .proxy =>
    if request.proxy = none then ((Tokens.given config.proxy).map (("--proxy=" : Text) ++ ·)).toList else []
  | .timeout =>
    if request.timeout = none then
      (((Tokens.given config.timeout).map Text.trim).map (("--timeout=" : Text) ++ ·)).toList
    else []
  | .indexUrl =>
    if request.indexUrl = none ∧ request.noIndex = false then
      ((Tokens.given config.indexUrl).map (("--index-url=" : Text) ++ ·)).toList
    else []
  | _ => []

variable {config : Config}

theorem timeout_kept (usable : config.Usable .timeout) : Tokens.fault? (.timeout config.timeout) = none := by
  unfold Tokens.timeout
  split
  · rfl
  · rename_i text said
    obtain ⟨said, given⟩ := Tokens.given_eq_some_iff.mp said
    obtain ⟨number, read⟩ := Option.isSome_iff_exists.mp (usable text said given)
    rw [read]
    rfl

theorem index_kept (usable : config.Usable .indexUrl) :
    Tokens.fault? (.address "--index-url" .indexUrl config.indexUrl) = none := by
  unfold Tokens.address
  split
  · rfl
  · rename_i text said
    obtain ⟨said, given⟩ := Tokens.given_eq_some_iff.mp said
    rw [if_pos (usable text said given)]
    rfl

end Config

structure Plan.Extended (options : List InstallOption) (said adds : InstallOption → List Text)
    (plan extended : Plan) : Prop where
  source : extended.source = plan.source
  arguments : ∀ requirement, ∃ front, plan.arguments requirement = front ++ options.flatMap said ∧
    extended.arguments requirement = front ++ options.flatMap fun option => said option ++ adds option

namespace InstallRequest

structure FilledFrom (config : Config) (request filled : InstallRequest) : Prop where
  others : filled = { request with
    program := filled.program
    user := filled.user
    folder := filled.folder
    timeout := filled.timeout
    proxy := filled.proxy
    indexUrl := filled.indexUrl }
  program : Filled request.program config.program filled.program
  user : Filled request.user config.user filled.user
  folder : Filled request.folder config.folder filled.folder
  timeout : Filled request.timeout config.timeout filled.timeout
  proxy : Filled request.proxy config.proxy filled.proxy
  indexUrl : Filled request.indexUrl config.indexUrl filled.indexUrl

variable {world : World} {config : Config} {request : InstallRequest} {plan : Plan}

theorem withDefaults_withDefaults (config : Config) (request : InstallRequest) :
    (request.withDefaults config).withDefaults config = request.withDefaults config := by
  unfold withDefaults
  cases request.environment <;> cases request.noIndex <;> simp [Option.or_assoc]

theorem filledFrom_withDefaults (config : Config) (request : InstallRequest) :
    FilledFrom config request (request.withDefaults config) where
  others := rfl
  program := by
    unfold withDefaults
    cases request.environment with
    | none => exact filled_or request.program config.program
    | some _ => exact Or.inl rfl
  user := filled_or request.user config.user
  folder := filled_or request.folder config.folder
  timeout := filled_or request.timeout config.timeout
  proxy := filled_or request.proxy config.proxy
  indexUrl := by
    unfold withDefaults
    cases request.noIndex with
    | false => exact filled_or request.indexUrl config.indexUrl
    | true => exact Or.inl rfl

theorem chosenProgram_withDefaults {path : Path} (chosen : request.chosenProgram = some path) :
    (request.withDefaults config).chosenProgram = some path := by
  unfold chosenProgram withDefaults at *
  cases older : request.environment with
  | some _ =>
      rw [older] at chosen
      exact chosen
  | none =>
      rw [older] at chosen
      have own : givenPath request.program = some path := Option.or_none.symm.trans chosen
      exact Option.or_none.trans (givenPath_or own)

-- The package index is left alone where it is switched off, so the settings cannot name one that is.
theorem disabledIndex_withDefaults (config : Config) (request : InstallRequest) :
    (request.withDefaults config).disabledIndex = request.disabledIndex := by
  unfold disabledIndex withDefaults
  cases request.noIndex <;> rfl

theorem part_withDefaults {option : InstallOption} (usable : config.Usable option)
    (sound : Tokens.fault? (request.part world option) = none) :
    Tokens.fault? ((request.withDefaults config).part world option) = none ∧
      Tokens.accepted ((request.withDefaults config).part world option) =
        Tokens.accepted (request.part world option) ++ config.adds request option := by
  cases option with
  | proxy =>
      have spelled : (("--proxy=" : Text) ++ ·) = Tokens.setting "--proxy" := rfl
      refine ⟨rfl, ?_⟩
      rw [Config.adds, spelled]
      cases own : request.proxy <;> simp [part, withDefaults, own, Tokens.text, Tokens.given]
  | timeout =>
      cases own : request.timeout with
      | none =>
          have filled : (request.withDefaults config).part world .timeout = .timeout config.timeout := by
            simp [part, withDefaults, own]
          have silent : Tokens.accepted (request.part world .timeout) = [] := by
            rw [part, own]
            rfl
          rw [filled, silent, Tokens.accepted_timeout (Config.timeout_kept usable), Config.adds, if_pos own]
          exact ⟨Config.timeout_kept usable, rfl⟩
      | some text =>
          have same : (request.withDefaults config).part world .timeout = request.part world .timeout := by
            simp [part, withDefaults, own]
          rw [same, Config.adds, own, if_neg (Option.some_ne_none text), List.append_nil]
          exact ⟨sound, rfl⟩
  | indexUrl =>
      by_cases gap : request.indexUrl = none ∧ request.noIndex = false
      · have filled : (request.withDefaults config).part world .indexUrl =
            .address "--index-url" .indexUrl config.indexUrl := by
          simp [part, withDefaults, gap]
        have silent : Tokens.accepted (request.part world .indexUrl) = [] := by
          rw [part, gap.1]
          rfl
        rw [filled, silent, Tokens.accepted_address (Config.index_kept usable), Config.adds, if_pos gap]
        exact ⟨Config.index_kept usable, rfl⟩
      · have same : (request.withDefaults config).part world .indexUrl = request.part world .indexUrl := by
          cases off : request.noIndex with
          | true => simp [part, withDefaults, off]
          | false =>
              cases own : request.indexUrl with
              | none => exact (gap ⟨own, off⟩).elim
              | some text => simp [part, withDefaults, own, off]
        rw [same, Config.adds, if_neg gap, List.append_nil]
        exact ⟨sound, rfl⟩
  | _ => exact ⟨sound, (List.append_nil _).symm⟩

theorem plan_withDefaults (timely : config.Usable .timeout) (reachable : config.Usable .indexUrl)
    (planned : request.plan world = .ok plan) : ∃ filled : Plan, (request.withDefaults config).plan world = .ok filled ∧
      plan.Extended (InstallOption.early ++ InstallOption.late)
        (fun option => Tokens.accepted (request.part world option)) (config.adds request) filled := by
  have usable (option : InstallOption) : config.Usable option := by
    cases option with
    | timeout => exact timely
    | indexUrl => exact reachable
    | _ => trivial
  obtain ⟨purpose, unnamed, sound⟩ := exists_plan_iff_parts.mp ⟨plan, planned⟩
  have kept (option : InstallOption) := part_withDefaults (usable option) (sound option)
  have passes : ∃ filled, (request.withDefaults config).plan world = .ok filled := by
    rw [exists_plan_iff_parts, disabledIndex_withDefaults]
    exact ⟨purpose, unnamed, fun option => (kept option).1⟩
  obtain ⟨filled, replanned⟩ := passes
  refine ⟨filled, replanned, ?_⟩
  obtain ⟨rfl, -⟩ := whole_of_plan planned
  obtain ⟨rfl, -⟩ := whole_of_plan replanned
  refine ⟨rfl, fun requirement => ⟨(request.wholePlan world).leading ++ requirementTokens requirement, rfl, ?_⟩⟩
  exact congrArg _ (List.flatMap_congr fun option _ => (kept option).2)

end InstallRequest

namespace UninstallRequest

structure FilledFrom (config : Config) (request filled : UninstallRequest) : Prop where
  others : filled = { request with
    program := filled.program
    user := filled.user
    folder := filled.folder
    timeout := filled.timeout
    proxy := filled.proxy }
  program : Filled request.program config.program filled.program
  user : Filled request.user config.user filled.user
  folder : Filled request.folder config.folder filled.folder
  timeout : Filled request.timeout config.timeout filled.timeout
  proxy : Filled request.proxy config.proxy filled.proxy

def options : List InstallOption := [.log, .proxy, .timeout]

variable {world : World} {config : Config} {request : UninstallRequest} {plan : Plan}

theorem withDefaults_withDefaults (config : Config) (request : UninstallRequest) :
    (request.withDefaults config).withDefaults config = request.withDefaults config := by
  simp [withDefaults, Option.or_assoc]

theorem filledFrom_withDefaults (config : Config) (request : UninstallRequest) :
    FilledFrom config request (request.withDefaults config) where
  others := rfl
  program := filled_or request.program config.program
  user := filled_or request.user config.user
  folder := filled_or request.folder config.folder
  timeout := filled_or request.timeout config.timeout
  proxy := filled_or request.proxy config.proxy

theorem givenPath_withDefaults {path : Path} (chosen : givenPath request.program = some path) :
    givenPath (request.withDefaults config).program = some path :=
  givenPath_or chosen

theorem plan_eq_ok_iff : request.plan world = .ok plan ↔ request.namesSomething = true ∧
    (∀ option ∈ options, Tokens.fault? (request.asInstall.part world option) = none) ∧
    plan = ⟨("uninstall" : Text) :: ("-y" : Text) :: request.asInstall.packageTokens, request.requirements,
      options.flatMap fun option => Tokens.accepted (request.asInstall.part world option)⟩ := by
  have trailing : request.trailingParts world = options.map (request.asInstall.part world) := rfl
  have leading : ∀ part ∈ request.leadingParts, Tokens.fault? part = none := by
    simp [leadingParts, Tokens.packages]
  have told : request.leadingParts.flatMap Tokens.accepted =
      ("uninstall" : Text) :: ("-y" : Text) :: request.asInstall.packageTokens := by
    rw [leadingParts, List.flatMap_cons, List.flatMap_singleton, InstallRequest.packageTokens, ItemList.handed_eq]
    rfl
  unfold UninstallRequest.plan
  cases request.namesSomething with
  | false => simp
  | true =>
      rw [if_pos rfl, Plan.ofParts_eq_ok_iff, trailing, List.forall_mem_append, List.forall_mem_map, List.flatMap_map,
        and_iff_right leading, and_iff_right rfl, told]

theorem part_withDefaults {option : InstallOption} (among : option ∈ options) :
    (request.withDefaults config).asInstall.part world option =
      (request.asInstall.withDefaults config).part world option := by
  simp only [options, List.mem_cons, List.not_mem_nil, or_false] at among
  rcases among with rfl | rfl | rfl <;> rfl

theorem plan_withDefaults (timely : config.Usable .timeout) (planned : request.plan world = .ok plan) :
    ∃ filled : Plan, (request.withDefaults config).plan world = .ok filled ∧
      plan.Extended options (fun option => Tokens.accepted (request.asInstall.part world option))
        (config.adds request.asInstall) filled := by
  have usable : ∀ option ∈ options, config.Usable option := by
    intro option among
    simp only [options, List.mem_cons, List.not_mem_nil, or_false] at among
    rcases among with rfl | rfl | rfl
    · trivial
    · trivial
    · exact timely
  obtain ⟨purpose, sound, rfl⟩ := plan_eq_ok_iff.mp planned
  have kept (option : InstallOption) (among : option ∈ options) :=
    InstallRequest.part_withDefaults (usable option among) (sound option among)
  refine ⟨_, plan_eq_ok_iff.mpr ⟨purpose, ?_, rfl⟩, rfl, fun requirement => ⟨_, rfl, ?_⟩⟩
  · intro option among
    rw [part_withDefaults among]
    exact (kept option among).1
  · refine congrArg _ (List.flatMap_congr fun option among => ?_)
    rw [part_withDefaults among]
    exact (kept option among).2

end UninstallRequest

/-- Settings fill what a request leaves open, and nothing else; filling twice is filling once. A program that is chosen
stays, no index is named that is switched off, and a request that has a plan has one with the settings too, where what
they say of a time limit and of the index would pass: its arguments are the same, with those for the proxy, the time
limit and the index added in their places. -/
theorem defaults_extend_plans (world : World) (config : Config) :
    (∀ request : InstallRequest,
      (request.withDefaults config).withDefaults config = request.withDefaults config ∧
      InstallRequest.FilledFrom config request (request.withDefaults config) ∧
      (∀ path, request.chosenProgram = some path → (request.withDefaults config).chosenProgram = some path) ∧
      (request.withDefaults config).disabledIndex = request.disabledIndex ∧
      ∀ plan, config.Usable .timeout → config.Usable .indexUrl → request.plan world = .ok plan →
        ∃ filled : Plan, (request.withDefaults config).plan world = .ok filled ∧
          plan.Extended (InstallOption.early ++ InstallOption.late)
            (fun option => Tokens.accepted (request.part world option)) (config.adds request) filled) ∧
    ∀ request : UninstallRequest,
      (request.withDefaults config).withDefaults config = request.withDefaults config ∧
      UninstallRequest.FilledFrom config request (request.withDefaults config) ∧
      (∀ path, givenPath request.program = some path →
        givenPath (request.withDefaults config).program = some path) ∧
      ∀ plan, config.Usable .timeout → request.plan world = .ok plan →
        ∃ filled : Plan, (request.withDefaults config).plan world = .ok filled ∧
          plan.Extended UninstallRequest.options
            (fun option => Tokens.accepted (request.asInstall.part world option)) (config.adds request.asInstall)
            filled := by
  constructor
  · intro request
    refine ⟨InstallRequest.withDefaults_withDefaults config request,
      InstallRequest.filledFrom_withDefaults config request, fun path => InstallRequest.chosenProgram_withDefaults,
      InstallRequest.disabledIndex_withDefaults config request, ?_⟩
    intro plan timely reachable planned
    exact InstallRequest.plan_withDefaults timely reachable planned
  · intro request
    refine ⟨UninstallRequest.withDefaults_withDefaults config request,
      UninstallRequest.filledFrom_withDefaults config request, fun path => UninstallRequest.givenPath_withDefaults, ?_⟩
    intro plan timely planned
    exact UninstallRequest.plan_withDefaults timely planned

def fullConfig : Config where
  program := some "venv"
  user := some "guest"
  folder := some "work"
  timeout := some " 15 "
  indexUrl := some "http://h/simple"
  proxy := some "p:1"

def gappyRequest : InstallRequest where
  packages := some (.joined "six")
  environment := some "older"
  proxy := some ""
  findLinks := some "http://links/"
  upgrade := true

theorem defaults_extend_plans_gappy :
    let world : World := { disk := {}, host := { folder := [] } }
    (∃ filled : Plan, (gappyRequest.withDefaults fullConfig).plan world = .ok filled ∧
      filled.arguments none = ["install", "six", "--timeout=15", "--find-links=http://links/",
        "--index-url=http://h/simple", "--upgrade"]) ∧
    (gappyRequest.withDefaults fullConfig).chosenProgram = some "older" ∧
    (∃ filled : Plan, (removalRequest.withDefaults fullConfig).plan world = .ok filled ∧
      filled.arguments none = ["uninstall", "-y", "six", "--timeout=abc", "--proxy=p:1", "--timeout=-7"]) ∧
    givenPath (UninstallRequest.withDefaults { program := some "own" } fullConfig).program = some "own" := by
  intro world
  have timely : fullConfig.Usable .timeout := by
    rintro text ⟨⟩ -
    decide +kernel
  have reachable : fullConfig.Usable .indexUrl := by
    rintro text ⟨⟩ -
    decide +kernel
  have planned : gappyRequest.plan world = .ok (gappyRequest.wholePlan world) := by decide +kernel
  have removes : removalRequest.plan world =
      .ok ⟨["uninstall", "-y", "six", "--timeout=abc"], none, ["--timeout=-7"]⟩ := by decide +kernel
  obtain ⟨installs, removals⟩ := defaults_extend_plans world fullConfig
  obtain ⟨-, -, chosen, -, lengthened⟩ := installs gappyRequest
  obtain ⟨-, -, -, shortened⟩ := removals removalRequest
  obtain ⟨-, -, kept, -⟩ := removals { program := some "own" }
  obtain ⟨filled, replanned, -⟩ := lengthened _ timely reachable planned
  obtain ⟨other, again, -⟩ := shortened _ timely removes
  refine ⟨⟨filled, replanned, ?_⟩, chosen "older" rfl, ⟨other, again, ?_⟩, kept "own" rfl⟩
  · obtain ⟨rfl, -⟩ := InstallRequest.whole_of_plan replanned
    decide +kernel
  · obtain ⟨-, -, rfl⟩ := UninstallRequest.plan_eq_ok_iff.mp again
    decide +kernel

end PipDriver
