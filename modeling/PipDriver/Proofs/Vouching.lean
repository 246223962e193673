import PipDriver.Proofs.Options

/-!
Which arguments of pip vouch for what they carry. Arguments are told apart by their names, and every argument
that an option is written as has been checked. The package entries are handed over as they are given, so one
that begins like an option is an argument that nobody has checked.
-/

namespace PipDriver

def IsWholeNumber (text : Text) : Prop :=
  ∃ sign digits : Text, text = sign ++ digits ∧ (sign = [] ∨ sign = ['+'] ∨ sign = ['-']) ∧
    digits ≠ [] ∧ ∀ digit ∈ digits, digit.isDigit = true

namespace Timeout

theorem digits_of_ne_none {text : Text} (read : digits? text ≠ none) :
    text ≠ [] ∧ ∀ digit ∈ text, digit.isDigit = true := by
  unfold digits? at read
  split at read
  · rename_i shape
    simpa using shape
  · cases read rfl

theorem isWholeNumber_of_number? {text : Text} (read : (number? text).isSome = true) : IsWholeNumber text := by
  have signed : ∀ sign rest : Text, (sign = [] ∨ sign = ['+'] ∨ sign = ['-']) → digits? rest ≠ none →
      IsWholeNumber (sign ++ rest) := by
    intro sign rest kind digits
    obtain ⟨some_digit, decimal⟩ := digits_of_ne_none digits
    exact ⟨sign, rest, rfl, kind, some_digit, decimal⟩
  have before_range := Option.isSome_of_isSome_filter _ _ read
  split at before_range
  · exact signed ['-'] _ (by simp) fun unread => by simp [unread] at before_range
  · exact signed ['+'] _ (by simp) fun unread => by simp [unread] at before_range
  · exact signed [] text (by simp) fun unread => by simp [unread] at before_range

theorem isWholeNumber_of_accepted? {given text : Text} (read : accepted? given = some text) :
    IsWholeNumber text := by
  unfold accepted? at read
  split at read
  · rename_i number
    cases read
    exact isWholeNumber_of_number? number
  · cases read

end Timeout

namespace Tokens

def nameOf (token : Text) : Text := token.takeWhile (· ≠ '=')

theorem nameOf_eq_self {name : Text} (plain : '=' ∉ name) : nameOf name = name := by
  rw [nameOf, List.takeWhile_eq_self_iff]
  intro character member
  simp only [decide_eq_true_eq]
  rintro rfl
  exact plain member

theorem nameOf_setting {name : Text} (plain : '=' ∉ name) (value : Text) : nameOf (setting name value) = name := by
  have whole := nameOf_eq_self plain
  rw [nameOf, List.takeWhile_eq_self_iff] at whole
  rw [nameOf, setting, List.takeWhile_append_of_pos whole, List.takeWhile_cons_of_neg (by simp), List.append_nil]

theorem setting_inj {name value other : Text} (same : setting name value = setting name other) : value = other := by
  simpa [setting] using same

theorem mem_accepted_concat {parts : List Tokens} {token : Text} (among : token ∈ accepted (concat parts)) :
    ∃ part ∈ parts, token ∈ accepted part := by
  rw [concat_eq] at among
  split at among
  · cases among
  · exact List.mem_flatMap.mp among

theorem mem_accepted_text {name token : Text} {value : Option Text} (among : token ∈ accepted (text name value)) :
    ∃ said, token = setting name said := by
  simp only [text, accepted_ok, Option.mem_toList, Option.map_eq_some_iff] at among
  obtain ⟨said, -, rfl⟩ := among
  exact ⟨said, rfl⟩

theorem mem_accepted_switch {name token : Text} {on : Bool} (among : token ∈ accepted (switch name on)) :
    token = name ∧ on = true := by
  cases on with
  | false => cases among
  | true => exact ⟨List.mem_singleton.mp among, rfl⟩

theorem mem_accepted_timeout {token : Text} {value : Option Text} (among : token ∈ accepted (timeout value)) :
    ∃ number, token = setting "--timeout" number ∧ IsWholeNumber number := by
  unfold timeout at among
  split at among
  · cases among
  · split at among
    · rename_i number read
      exact ⟨number, List.mem_singleton.mp among, Timeout.isWholeNumber_of_accepted? read⟩
    · cases among

theorem mem_accepted_address {name token : Text} {option : AddressOption} {value : Option Text}
    (among : token ∈ accepted (address name option value)) :
    ∃ said, token = setting name said ∧ given value = some said ∧ (Address.parse? said).isSome = true := by
  unfold address at among
  split at among
  · cases among
  · rename_i said named
    split at among
    · rename_i proper
      exact ⟨said, List.mem_singleton.mp among, named, proper⟩
    · cases among

theorem mem_accepted_log {world : World} {token : Text} {path : Option Path}
    (among : token ∈ accepted (log world path)) : ∃ said, token = setting "--log" said := by
  unfold log at among
  split at among
  · cases among
  · split at among
    · exact ⟨_, List.mem_singleton.mp among⟩
    · cases among

theorem mem_accepted_editables {token : Text} {list : Option ItemList} (among : token ∈ accepted (editables list)) :
    ∃ said, token = setting "--editable" said := by
  obtain ⟨part, member, among⟩ := mem_accepted_concat among
  obtain ⟨entry, -, rfl⟩ := List.mem_map.mp member
  unfold editable at among
  split at among
  · exact ⟨entry, List.mem_singleton.mp among⟩
  · cases among

theorem mem_accepted_mirrors {token : Text} {list : Option ItemList} (among : token ∈ accepted (mirrors list)) :
    token = "--use-mirrors" ∨ ∃ said, token = setting "--mirrors" said := by
  simp only [mirrors] at among
  split at among
  · cases among
  · obtain ⟨part, member, among⟩ := mem_accepted_concat among
    rcases List.mem_cons.mp member with rfl | member
    · exact Or.inl (List.mem_singleton.mp among)
    · obtain ⟨entry, -, rfl⟩ := List.mem_map.mp member
      unfold mirror at among
      split at among
      · exact Or.inr ⟨entry, List.mem_singleton.mp among⟩
      · cases among

end Tokens

namespace InstallOption

/-- The names of the arguments that an option is written as. -/
def names : InstallOption → List Text
  | .editable => ["--editable"]
  | .log => ["--log"]
  | .proxy => ["--proxy"]
  | .timeout => ["--timeout"]
  | .findLinks => ["--find-links"]
  | .indexUrl => ["--index-url"]
  | .extraIndexUrl => ["--extra-index-url"]
  | .noIndex => ["--no-index"]
  | .mirrors => ["--use-mirrors", "--mirrors"]
  | .build => ["--build"]
  | .target => ["--target"]
  | .download => ["--download"]
  | .downloadCache => ["--download-cache"]
  | .source => ["--source"]
  | .upgrade => ["--upgrade"]
  | .forceReinstall => ["--force-reinstall"]
  | .ignoreInstalled => ["--ignore-installed"]
  | .existsAction => ["--exists-action"]
  | .noDependencies => ["--no-deps"]
  | .noInstall => ["--no-install"]
  | .noDownload => ["--no-download"]
  | .installOptions => ["--install-option"]

def named? (name : Text) : Option InstallOption := all.find? fun option => name ∈ option.names

theorem named?_of_mem {option : InstallOption} {name : Text} (among : name ∈ option.names) :
    named? name = some option := by
  cases option <;> simp only [names, List.mem_cons, List.not_mem_nil, or_false] at among <;>
    first | (subst among; decide +kernel) | (rcases among with rfl | rfl <;> decide +kernel)

end InstallOption

namespace InstallRequest

variable {world : World} {request : InstallRequest} {token name value : Text} {option : InstallOption}

theorem nameOf_mem_names (among : token ∈ Tokens.accepted (request.part world option)) :
    Tokens.nameOf token ∈ option.names := by
  have settled : ∀ {name : Text}, (∃ said, token = Tokens.setting name said) → '=' ∉ name →
      name ∈ option.names → Tokens.nameOf token ∈ option.names := by
    rintro name ⟨said, rfl⟩ plain listed
    rwa [Tokens.nameOf_setting plain]
  have bare : ∀ {name : Text}, token = name → '=' ∉ name → name ∈ option.names →
      Tokens.nameOf token ∈ option.names := by
    rintro name rfl plain listed
    rwa [Tokens.nameOf_eq_self plain]
  cases option with
  | editable => exact settled (Tokens.mem_accepted_editables among) (by decide) (by decide)
  | log => exact settled (Tokens.mem_accepted_log among) (by decide) (by decide)
  | timeout =>
      obtain ⟨number, written, -⟩ := Tokens.mem_accepted_timeout among
      exact settled ⟨number, written⟩ (by decide) (by decide)
  | findLinks | indexUrl | extraIndexUrl =>
      obtain ⟨said, written, -⟩ := Tokens.mem_accepted_address among
      exact settled ⟨said, written⟩ (by decide) (by decide)
  | noIndex | upgrade | forceReinstall | ignoreInstalled | noDependencies | noInstall | noDownload =>
      exact bare (Tokens.mem_accepted_switch among).1 (by decide) (by decide)
  | mirrors =>
      rcases Tokens.mem_accepted_mirrors among with written | written
      · exact bare written (by decide) (by decide)
      · exact settled written (by decide) (by decide)
  | existsAction =>
      obtain ⟨action, -, rfl⟩ := Option.map_eq_some_iff.mp (Option.mem_toList.mp among)
      exact settled ⟨_, rfl⟩ (by decide) (by decide)
  | installOptions =>
      obtain ⟨said, -, rfl⟩ := List.mem_map.mp among
      exact settled ⟨said, rfl⟩ (by decide) (by decide)
  | _ => exact settled (Tokens.mem_accepted_text among) (by decide) (by decide)

/-- An argument tells the option that it is written for. -/
theorem named?_of_part (among : token ∈ Tokens.accepted (request.part world option)) :
    InstallOption.named? (Tokens.nameOf token) = some option :=
  InstallOption.named?_of_mem (nameOf_mem_names among)

end InstallRequest

/-- What pip reads in these arguments has been checked: the addresses can be read, the time limits are whole
numbers, and no package index is both named and switched off. -/
structure Vouched (tokens : List Text) : Prop where
  addresses : ∀ name ∈ (["--index-url", "--extra-index-url", "--find-links"] : List Text), ∀ value,
    name ++ '=' :: value ∈ tokens → (Address.parse? value).isSome = true
  timeouts : ∀ value, ("--timeout=" : Text) ++ value ∈ tokens → IsWholeNumber value
  index : ("--no-index" : Text) ∈ tokens → ∀ value,
    ("--index-url=" : Text) ++ value ∉ tokens ∧ ("--extra-index-url=" : Text) ++ value ∉ tokens

namespace InstallRequest

variable {world : World} {request : InstallRequest}

def optionTokens (world : World) (request : InstallRequest) (requirement : Option Path) : List Text :=
  Tokens.accepted (request.part world .editable) ++ requirementTokens requirement ++
    (wholePlan world request).trailing

theorem wholePlan_arguments (requirement : Option Path) : (wholePlan world request).arguments requirement =
    ("install" : Text) :: request.packageTokens ++ request.optionTokens world requirement := by
  simp [Plan.arguments, wholePlan, optionTokens]

theorem mem_optionTokens {requirement : Option Path} {token : Text}
    (among : token ∈ request.optionTokens world requirement) :
    (∃ path, token = Tokens.setting "--requirement" path) ∨
      ∃ option, token ∈ Tokens.accepted (request.part world option) := by
  simp only [optionTokens, wholePlan, List.mem_append, List.mem_flatMap] at among
  rcases among with (editable | path) | ⟨option, -, among⟩
  · exact Or.inr ⟨.editable, editable⟩
  · cases requirement with
    | none => cases path
    | some path' => exact Or.inl ⟨path'.text, List.mem_singleton.mp path⟩
  · exact Or.inr ⟨option, among⟩

/-- An argument that is named like an option is written for it. -/
theorem mem_part (option : InstallOption) {requirement : Option Path} {token : Text}
    (kind : InstallOption.named? (Tokens.nameOf token) = some option)
    (among : token ∈ request.optionTokens world requirement) :
    token ∈ Tokens.accepted (request.part world option) := by
  rcases mem_optionTokens among with ⟨path, rfl⟩ | ⟨other, member⟩
  · have unknown : InstallOption.named? "--requirement" = none := by decide +kernel
    rw [Tokens.nameOf_setting (by decide), unknown] at kind
    cases kind
  · rw [named?_of_part member] at kind
    cases kind
    exact member

theorem mem_part_of_setting (option : InstallOption) {requirement : Option Path} {name value : Text}
    (plain : '=' ∉ name) (kind : InstallOption.named? name = some option)
    (among : Tokens.setting name value ∈ request.optionTokens world requirement) :
    Tokens.setting name value ∈ Tokens.accepted (request.part world option) :=
  mem_part option (by rwa [Tokens.nameOf_setting plain]) among

theorem vouched_optionTokens (compatible : request.disabledIndex = none) (requirement : Option Path) :
    Vouched (request.optionTokens world requirement) where
  addresses := by
    intro name among value member
    have checked : ∀ {name : Text} {option : AddressOption} {field : Option Text},
        Tokens.setting name value ∈ Tokens.accepted (.address name option field) →
        (Address.parse? value).isSome = true := by
      intro name option field member
      obtain ⟨said, same, -, proper⟩ := Tokens.mem_accepted_address member
      rwa [Tokens.setting_inj same]
    simp only [List.mem_cons, List.not_mem_nil, or_false] at among
    rcases among with rfl | rfl | rfl
    · exact checked (mem_part_of_setting .indexUrl (by decide) (by decide +kernel) member)
    · exact checked (mem_part_of_setting .extraIndexUrl (by decide) (by decide +kernel) member)
    · exact checked (mem_part_of_setting .findLinks (by decide) (by decide +kernel) member)
  timeouts := by
    intro value member
    have member := mem_part_of_setting .timeout (by decide) (by decide +kernel)
      (show Tokens.setting "--timeout" value ∈ _ from member)
    obtain ⟨number, same, whole⟩ := Tokens.mem_accepted_timeout member
    rwa [Tokens.setting_inj same]
  index := by
    intro off value
    have off := (Tokens.mem_accepted_switch (mem_part .noIndex (by decide +kernel) off)).2
    simp only [disabledIndex, off, if_true, Option.or_eq_none_iff] at compatible
    constructor
    · intro member
      have member := mem_part_of_setting .indexUrl (by decide) (by decide +kernel)
        (show Tokens.setting "--index-url" value ∈ _ from member)
      obtain ⟨said, -, named, -⟩ := Tokens.mem_accepted_address member
      rw [compatible.1] at named
      cases named
    · intro member
      have member := mem_part_of_setting .extraIndexUrl (by decide) (by decide +kernel)
        (show Tokens.setting "--extra-index-url" value ∈ _ from member)
      obtain ⟨said, -, named, -⟩ := Tokens.mem_accepted_address member
      rw [compatible.2] at named
      cases named

end InstallRequest

namespace UninstallRequest

def packageTokens (request : UninstallRequest) : List Text := ItemList.handed request.packages

def optionTokens (world : World) (request : UninstallRequest) (requirement : Option Path) : List Text :=
  requirementTokens requirement ++ (request.trailingParts world).flatMap Tokens.accepted

variable {world : World} {request : UninstallRequest} {plan : Plan}

theorem plan_arguments (accepted : request.plan world = .ok plan) (requirement : Option Path) :
    plan.arguments requirement =
      ("uninstall" : Text) :: "-y" :: request.packageTokens ++ request.optionTokens world requirement := by
  unfold UninstallRequest.plan at accepted
  split at accepted
  · rw [Plan.ofParts_eq] at accepted
    split at accepted
    · cases accepted
    · cases accepted
      simp [Plan.arguments, leadingParts, packageTokens, ItemList.handed_eq, optionTokens, Tokens.packages]
  · cases accepted

theorem isWholeNumber_of_mem {requirement : Option Path} {value : Text}
    (among : ("--timeout=" : Text) ++ value ∈ request.optionTokens world requirement) : IsWholeNumber value := by
  have written : ("--timeout=" : Text) ++ value = Tokens.setting "--timeout" value := rfl
  rw [written] at among
  have other : ∀ name : Text, '=' ∉ name → name ≠ "--timeout" →
      ¬∃ said, Tokens.setting "--timeout" value = Tokens.setting name said := by
    rintro name plain different ⟨said, same⟩
    have names := congrArg Tokens.nameOf same
    rw [Tokens.nameOf_setting plain, Tokens.nameOf_setting (by decide)] at names
    exact different names.symm
  simp only [optionTokens, trailingParts, List.mem_append, List.flatMap_cons, List.flatMap_nil,
    List.append_nil] at among
  rcases among with path | log | proxy | timeout
  · cases requirement with
    | none => cases path
    | some path' => exact (other "--requirement" (by decide) (by decide)
        ⟨path'.text, List.mem_singleton.mp path⟩).elim
  · exact (other "--log" (by decide) (by decide) (Tokens.mem_accepted_log log)).elim
  · exact (other "--proxy" (by decide) (by decide) (Tokens.mem_accepted_text proxy)).elim
  · obtain ⟨number, same, whole⟩ := Tokens.mem_accepted_timeout timeout
    rwa [Tokens.setting_inj same]

end UninstallRequest

/-- An argument with a dash is not among those that have none. -/
theorem mem_right_of_dash {first rest : List Text} {token : Text} (plain : ∀ entry ∈ first, entry.head? ≠ some '-')
    (dash : token.head? = some '-') (among : token ∈ first ++ rest) : token ∈ rest := by
  rcases List.mem_append.mp among with member | member
  · exact (plain token member dash).elim
  · exact member

theorem Vouched.append {first rest : List Text} (plain : ∀ entry ∈ first, entry.head? ≠ some '-')
    (vouched : Vouched rest) : Vouched (first ++ rest) where
  addresses := by
    intro name among value member
    have dash : ∀ name ∈ (["--index-url", "--extra-index-url", "--find-links"] : List Text),
        name.head? = some '-' := by decide
    refine vouched.addresses name among value (mem_right_of_dash plain ?_ member)
    rw [List.head?_append, dash name among, Option.some_or]
  timeouts := fun value member => vouched.timeouts value (mem_right_of_dash plain rfl member)
  index := by
    intro off value
    obtain ⟨index, extra⟩ := vouched.index (mem_right_of_dash plain rfl off) value
    exact ⟨fun member => index (mem_right_of_dash plain rfl member),
      fun member => extra (mem_right_of_dash plain rfl member)⟩

/-- Of a request with a plan, every argument has been checked but for the package entries, which are handed over as
they are given; if none of them begins with a dash, all arguments are vouched for. -/
theorem plans_vouch_for_options (world : World) :
    (∀ (request : InstallRequest) (plan : Plan), request.plan world = .ok plan → ∀ requirement, ∃ others,
      plan.arguments requirement = ("install" : Text) :: request.packageTokens ++ others ∧ Vouched others ∧
      ((∀ package ∈ request.packageTokens, package.head? ≠ some '-') → Vouched (plan.arguments requirement))) ∧
    ∀ (request : UninstallRequest) (plan : Plan), request.plan world = .ok plan → ∀ requirement, ∃ others,
      plan.arguments requirement = ("uninstall" : Text) :: "-y" :: request.packageTokens ++ others ∧
      (∀ value, ("--timeout=" : Text) ++ value ∈ others → IsWholeNumber value) ∧
      ((∀ package ∈ request.packageTokens, package.head? ≠ some '-') →
        ∀ value, ("--timeout=" : Text) ++ value ∈ plan.arguments requirement → IsWholeNumber value) := by
  constructor
  · intro request plan accepted requirement
    have kept := (InstallRequest.exists_plan_iff world request).mp ⟨plan, accepted⟩
    have compatible := ((InstallRequest.rules_kept_iff world request).mp kept).2.1
    have vouched : Vouched (request.optionTokens world requirement) :=
      InstallRequest.vouched_optionTokens compatible requirement
    rw [InstallRequest.plan_eq, kept, Except.ok.injEq] at accepted
    subst accepted
    have split : (InstallRequest.wholePlan world request).arguments requirement = _ :=
      InstallRequest.wholePlan_arguments requirement
    refine ⟨_, split, vouched, ?_⟩
    intro plain
    rw [split]
    refine vouched.append ?_
    rintro entry (_ | ⟨_, member⟩)
    · decide
    · exact plain entry member
  · intro request plan accepted requirement
    have split := UninstallRequest.plan_arguments accepted requirement
    refine ⟨_, split, fun value member => UninstallRequest.isWholeNumber_of_mem member, ?_⟩
    intro plain value member
    rw [split] at member
    simp only [List.cons_append, List.mem_cons] at member
    rcases member with verb | yes | member
    · cases verb
    · cases yes
    · exact UninstallRequest.isWholeNumber_of_mem (mem_right_of_dash plain rfl member)

def offlineRequest : InstallRequest where
  packages := some (.joined "six >=1;<2, markdown")
  timeout := some " +30 "
  findLinks := some "ftp://host/links"
  noIndex := true

def removalRequest : UninstallRequest where
  packages := some (.many ["six", "--timeout=abc"])
  timeout := some "-7"

theorem plans_vouch_for_options_offline :
    let world : World := { disk := {}, host := { folder := [] } }
    (∃ plan : Plan, offlineRequest.plan world = .ok plan ∧ Vouched (plan.arguments none) ∧
      ("--timeout=+30" : Text) ∈ plan.arguments none ∧ ("--no-index" : Text) ∈ plan.arguments none) ∧
    ∃ (plan : Plan) (others : List Text), removalRequest.plan world = .ok plan ∧
      plan.arguments none = ("uninstall" : Text) :: "-y" :: "six" :: "--timeout=abc" :: others ∧
      (∀ value, ("--timeout=" : Text) ++ value ∈ others → IsWholeNumber value) := by
  intro world
  obtain ⟨installs, removals⟩ := plans_vouch_for_options world
  have install : offlineRequest.plan world = .ok (offlineRequest.wholePlan world) := by decide +kernel
  have removal : removalRequest.plan world = .ok
      ⟨["uninstall", "-y", "six", "--timeout=abc"], none, ["--timeout=-7"]⟩ := by decide +kernel
  constructor
  · obtain ⟨others, -, -, whole⟩ := installs offlineRequest _ install none
    exact ⟨_, install, whole (by decide +kernel), by decide +kernel, by decide +kernel⟩
  · obtain ⟨others, split, numbers, -⟩ := removals removalRequest _ removal none
    exact ⟨_, others, removal, split, numbers⟩

/-- A package entry that begins like an option is an argument, and nobody has checked what it carries. -/
theorem package_entry_unvouched :
    let world : World := { disk := {}, host := { folder := [] } }
    let request : InstallRequest := { packages := some (.joined "--timeout=abc") }
    ∃ plan : Plan, request.plan world = .ok plan ∧ ¬Vouched (plan.arguments none) := by
  intro world request
  refine ⟨⟨["install", "--timeout=abc"], none, []⟩, by decide +kernel, ?_⟩
  intro vouched
  obtain ⟨sign, digits, split, signed, -, decimal⟩ := vouched.timeouts "abc" (by decide +kernel)
  rcases signed with rfl | rfl | rfl
  · subst split
    exact absurd (decimal 'a' (by decide)) (by decide)
  · cases split
  · cases split

end PipDriver
