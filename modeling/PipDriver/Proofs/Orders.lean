import Mathlib.Data.List.Forall2
import Mathlib.Data.List.Infix
import PipDriver.Proofs.Vouching

/-!
Reading the arguments of an installation back. Every argument for an option begins with a dash and has the name of the
option, so as long as no package entry begins with a dash the arguments tell all that was asked for, of a path what a
reader sees of it.
-/

namespace PipDriver

structure Orders where
  packages : List Text
  editable : List Text
  requirement : Option Text
  log : Option Text
  proxy : Option Text
  timeout : Option Text
  findLinks : Option Text
  indexUrl : Option Text
  extraIndexUrl : Option Text
  noIndex : Bool
  mirrors : List Text
  build : Option Text
  target : Option Text
  download : Option Text
  downloadCache : Option Text
  source : Option Text
  upgrade : Bool
  forceReinstall : Bool
  ignoreInstalled : Bool
  existsAction : Option ExistsAction
  noDependencies : Bool
  noInstall : Bool
  noDownload : Bool
  installOptions : List Text
deriving DecidableEq

def Orders.paths (orders : Orders) : List (Option Text) :=
  [orders.log, orders.build, orders.target, orders.download, orders.downloadCache, orders.source]

namespace Tokens

def value? (name token : Text) : Option Text := (name ++ ['=']).isPrefixOf? token

def values (name : Text) (tokens : List Text) : List Text := tokens.filterMap (value? name)

section

variable {name token value : Text} {tokens : List Text}

theorem value?_eq_some_iff : value? name token = some value ↔ token = setting name value := by
  rw [value?, List.isPrefixOf?_eq_some_iff_append_eq, setting, List.append_assoc, List.singleton_append, eq_comm]

theorem values_of_other (plain : '=' ∉ name) (other : ∀ token ∈ tokens, nameOf token ≠ name) :
    values name tokens = [] := by
  rw [values, List.filterMap_eq_nil_iff]
  intro token member
  cases read : value? name token with
  | none => rfl
  | some value =>
      rw [value?_eq_some_iff] at read
      subst read
      exact (other _ member (nameOf_setting plain value)).elim

theorem values_settings (said : List Text) : values name (said.map (setting name)) = said := by
  rw [values, List.filterMap_map]
  have same : value? name ∘ setting name = some := funext fun value => value?_eq_some_iff.mpr rfl
  rw [same, List.filterMap_some]

theorem values_setting (value : Text) : values name [setting name value] = [value] := values_settings [value]

theorem values_settings? (said : Option Text) : values name (said.map (setting name)).toList = said.toList := by
  cases said with
  | none => rfl
  | some value => exact values_setting value

theorem values_text (value : Option Text) : values name (accepted (text name value)) = (given value).toList :=
  values_settings? (given value)

theorem values_folder (path : Option Path) :
    values name (accepted (folder name path)) = ((givenPath path).map Path.text).toList := by
  rw [folder, values_text, given_path]

theorem mem_switch_iff {on : Bool} : name ∈ accepted (switch name on) ↔ on = true := by
  cases on <;> simp [switch]

theorem values_existsAction (action : Option ExistsAction) :
    values "--exists-action" (accepted (existsAction action)) = (action.map ExistsAction.letter).toList := by
  cases action with
  | none => rfl
  | some action => exact values_setting action.letter

theorem values_timeout {value : Option Text} (kept : fault? (timeout value) = none) :
    values "--timeout" (accepted (timeout value)) = ((given value).map Text.trim).toList := by
  rw [accepted_timeout kept, values_settings?]

theorem values_address {option : AddressOption} {value : Option Text}
    (kept : fault? (address name option value) = none) :
    values name (accepted (address name option value)) = (given value).toList := by
  rw [accepted_address kept, values_settings?]

theorem values_log {world : World} {path : Option Path} (kept : fault? (log world path) = none) :
    values "--log" (accepted (log world path)) = (path.map Path.text).toList := by
  rw [accepted_log kept]
  cases path with
  | none => rfl
  | some path => exact values_setting path.text

theorem values_mirrors {list : Option ItemList} (kept : fault? (mirrors list) = none) :
    values "--mirrors" (accepted (mirrors list)) = ItemList.itemsOf list := by
  rw [accepted_mirrors kept]
  split
  · rename_i empty
    exact empty.symm
  · exact values_settings (ItemList.itemsOf list)

end

end Tokens

/-- Of several parts only one says anything. -/
theorem flatMap_of_only {α β : Type} {parts : List α} {part : α} (said : α → List β) (once : parts.Nodup)
    (among : part ∈ parts) (silent : ∀ other ∈ parts, other ≠ part → said other = []) :
    parts.flatMap said = said part := by
  induction parts with
  | nil => cases among
  | cons first rest ih =>
      rw [List.nodup_cons] at once
      rw [List.flatMap_cons]
      by_cases same : first = part
      · subst same
        have others : rest.flatMap said = [] := by
          rw [List.flatMap_eq_nil_iff]
          intro other member
          refine silent other (List.mem_cons_of_mem _ member) ?_
          rintro rfl
          exact once.1 member
        rw [others, List.append_nil]
      · have later : part ∈ rest := (List.mem_cons.mp among).resolve_left (Ne.symm same)
        rw [silent first List.mem_cons_self same, List.nil_append]
        exact ih once.2 later fun other member => silent other (List.mem_cons_of_mem _ member)

/-- The package entries come first; everything from the first argument with a dash on is for options. -/
def Orders.ofArguments (arguments : List Text) : Orders :=
  let isEntry (argument : Text) : Bool := argument.head? ≠ some '-'
  let options := (arguments.drop 1).dropWhile isEntry
  { packages := (arguments.drop 1).takeWhile isEntry
    editable := Tokens.values "--editable" options
    requirement := (Tokens.values "--requirement" options).head?
    log := (Tokens.values "--log" options).head?
    proxy := (Tokens.values "--proxy" options).head?
    timeout := (Tokens.values "--timeout" options).head?
    findLinks := (Tokens.values "--find-links" options).head?
    indexUrl := (Tokens.values "--index-url" options).head?
    extraIndexUrl := (Tokens.values "--extra-index-url" options).head?
    noIndex := options.contains "--no-index"
    mirrors := Tokens.values "--mirrors" options
    build := (Tokens.values "--build" options).head?
    target := (Tokens.values "--target" options).head?
    download := (Tokens.values "--download" options).head?
    downloadCache := (Tokens.values "--download-cache" options).head?
    source := (Tokens.values "--source" options).head?
    upgrade := options.contains "--upgrade"
    forceReinstall := options.contains "--force-reinstall"
    ignoreInstalled := options.contains "--ignore-installed"
    existsAction := (Tokens.values "--exists-action" options).head?.bind fun letter =>
      ExistsAction.all.find? fun action => action.letter = letter
    noDependencies := options.contains "--no-deps"
    noInstall := options.contains "--no-install"
    noDownload := options.contains "--no-download"
    installOptions := Tokens.values "--install-option" options }

namespace InstallRequest

/-- What a request asks for, where an empty text or path asks for nothing, and a blank entry for nothing either. -/
def orders (request : InstallRequest) (requirement : Option Path) : Orders where
  packages := ItemList.handed request.packages
  editable := request.editable.toList.flatMap ItemList.listed
  requirement := requirement.map Path.text
  log := request.log.map Path.text
  proxy := request.proxy.filter (· ≠ [])
  timeout := (request.timeout.filter (· ≠ [])).map Text.trim
  findLinks := request.findLinks.filter (· ≠ [])
  indexUrl := request.indexUrl.filter (· ≠ [])
  extraIndexUrl := request.extraIndexUrl.filter (· ≠ [])
  noIndex := request.noIndex
  mirrors := request.mirrors.toList.flatMap ItemList.listed
  build := (request.build.filter (·.bytes ≠ [])).map Path.text
  target := (request.target.filter (·.bytes ≠ [])).map Path.text
  download := (request.download.filter (·.bytes ≠ [])).map Path.text
  downloadCache := (request.downloadCache.filter (·.bytes ≠ [])).map Path.text
  source := (request.source.filter (·.bytes ≠ [])).map Path.text
  upgrade := request.upgrade
  forceReinstall := request.forceReinstall
  ignoreInstalled := request.ignoreInstalled
  existsAction := request.existsAction
  noDependencies := request.noDependencies
  noInstall := request.noInstall
  noDownload := request.noDownload
  installOptions := request.installOptions

variable {world : World} {request : InstallRequest} {requirement : Option Path} {option : InstallOption}
  {name token : Text}

theorem nodup_all : InstallOption.all.Nodup := by decide

theorem named?_requirement : InstallOption.named? "--requirement" = none := by decide +kernel

theorem plain_of_listed (listed : name ∈ option.names) : '=' ∉ name := by
  revert name
  cases option <;> decide

theorem values_of_other_part {other : InstallOption} (listed : name ∈ option.names) (different : other ≠ option) :
    Tokens.values name (Tokens.accepted (request.part world other)) = [] := by
  have kind := InstallOption.named?_of_mem listed
  refine Tokens.values_of_other (plain_of_listed listed) fun token member same => different ?_
  rw [← same, named?_of_part member] at kind
  exact Option.some.inj kind

/-- An option is set by its own part of the line only. -/
theorem values_optionTokens (option : InstallOption) (listed : name ∈ option.names) :
    Tokens.values name (request.optionTokens world requirement) =
      Tokens.values name (Tokens.accepted (request.part world option)) := by
  have plain := plain_of_listed listed
  have kind := InstallOption.named?_of_mem listed
  have skipped : Tokens.values name (requirementTokens requirement) = [] := by
    refine Tokens.values_of_other plain fun token member same => ?_
    obtain ⟨path, -, rfl⟩ := Option.map_eq_some_iff.mp (Option.mem_toList.mp member)
    rw [← same, show requirementStart ++ path.text = Tokens.setting "--requirement" path.text from rfl,
      Tokens.nameOf_setting (by decide), named?_requirement] at kind
    cases kind
  have whole := flatMap_of_only (fun other => Tokens.values name (Tokens.accepted (request.part world other))) nodup_all
    option.mem_all fun other _ => values_of_other_part listed
  rw [← whole, InstallOption.all, List.cons_append, List.flatMap_cons, optionTokens, wholePlan, Tokens.values,
    List.filterMap_append, List.filterMap_append, ← Tokens.values, ← Tokens.values, skipped, List.append_nil,
    List.filterMap_flatMap]
  rfl

theorem values_trailing (listed : name ∈ option.names) (behind : option ∈ InstallOption.early ++ InstallOption.late) :
    Tokens.values name (request.wholePlan world).trailing =
      Tokens.values name (Tokens.accepted (request.part world option)) := by
  rw [wholePlan, Tokens.values, List.filterMap_flatMap]
  exact flatMap_of_only (fun other => Tokens.values name (Tokens.accepted (request.part world other))) (by decide) behind
    fun other _ => values_of_other_part listed

theorem mem_optionTokens_of_part (option : InstallOption)
    (among : token ∈ Tokens.accepted (request.part world option)) :
    token ∈ request.optionTokens world requirement := by
  rcases List.mem_append.mp (show option ∈ (.editable :: InstallOption.early) ++ InstallOption.late from option.mem_all)
    with early | late
  · rcases List.mem_cons.mp early with rfl | early
    · exact List.mem_append_left _ (List.mem_append_left _ among)
    · exact List.mem_append_right _ (List.mem_flatMap.mpr ⟨option, List.mem_append_left _ early, among⟩)
  · exact List.mem_append_right _ (List.mem_flatMap.mpr ⟨option, List.mem_append_right _ late, among⟩)

theorem read_switch (option : InstallOption) {on : Bool} (listed : name ∈ option.names)
    (part : request.part world option = .switch name on) :
    (request.optionTokens world requirement).contains name = on := by
  rw [Bool.eq_iff_iff, List.contains_iff_mem]
  constructor
  · intro member
    have kind : InstallOption.named? (Tokens.nameOf name) = some option := by
      rw [Tokens.nameOf_eq_self (plain_of_listed listed), InstallOption.named?_of_mem listed]
    have among := mem_part option kind member
    rwa [part, Tokens.mem_switch_iff] at among
  · intro set
    refine mem_optionTokens_of_part option ?_
    rw [part, Tokens.mem_switch_iff]
    exact set

theorem dash_of_named (named : (Tokens.nameOf token).head? = some '-') : token.head? = some '-' := by
  have starts : Tokens.nameOf token <+: token := List.takeWhile_prefix _
  obtain ⟨rest, whole⟩ := starts
  rw [← whole, List.head?_append, named, Option.some_or]

theorem dash_of_mem_optionTokens (among : token ∈ request.optionTokens world requirement) :
    token.head? = some '-' := by
  have dashed : ∀ option : InstallOption, ∀ name ∈ option.names, name.head? = some '-' := by
    intro option
    cases option <;> decide
  rcases mem_optionTokens among with ⟨path, rfl⟩ | ⟨option, member⟩
  · rfl
  · exact dash_of_named (dashed option _ (nameOf_mem_names member))

/-- A package entry without a dash in front has none either once its semicolons are commas. -/
theorem undashed_of_entries (plain : ∀ entry ∈ request.packages.toList.flatMap ItemList.listed, entry.head? ≠ some '-') :
    ∀ package ∈ request.packageTokens, package.head? ≠ some '-' := by
  intro package member
  obtain ⟨entry, among, rfl⟩ := List.mem_map.mp member
  have first := plain entry among
  rw [List.head?_map]
  cases begins : entry.head? with
  | none => simp
  | some character =>
      rw [begins] at first
      by_cases semicolon : character = ';'
      · simp [semicolon]
      · simpa [semicolon] using first

theorem values_requirement : Tokens.values "--requirement" (request.optionTokens world requirement) =
    (requirement.map Path.text).toList := by
  have silent (option : InstallOption) :
      Tokens.values "--requirement" (Tokens.accepted (request.part world option)) = [] := by
    refine Tokens.values_of_other (by decide) fun token member same => ?_
    have unknown := named?_requirement
    rw [← same, named?_of_part member] at unknown
    cases unknown
  have read : Tokens.values "--requirement" (requirementTokens requirement) = (requirement.map Path.text).toList := by
    cases requirement with
    | none => rfl
    | some path => exact Tokens.values_setting path.text
  have behind : Tokens.values "--requirement" (request.wholePlan world).trailing = [] := by
    rw [wholePlan, Tokens.values, List.filterMap_flatMap, List.flatMap_eq_nil_iff]
    exact fun option _ => silent option
  have ahead := silent .editable
  rw [Tokens.values] at read ahead behind
  rw [optionTokens, Tokens.values, List.filterMap_append, List.filterMap_append, read, ahead, behind, List.nil_append,
    List.append_nil]

theorem givenPath_eq (path : Option Path) : givenPath path = path.filter (·.bytes ≠ []) := by
  refine congrArg path.filter (funext fun path => ?_)
  rcases path with ⟨bytes⟩
  cases bytes <;> simp [Path.isEmpty]

section Reading

variable {value : Option Text} {path : Option Path}

theorem read_text (option : InstallOption) (listed : name ∈ option.names)
    (part : request.part world option = .text name value) :
    (Tokens.values name (request.optionTokens world requirement)).head? = Tokens.given value := by
  rw [values_optionTokens option listed, part, Tokens.values_text, Option.head?_toList]

theorem read_path (option : InstallOption) (listed : name ∈ option.names)
    (said : Tokens.values name (Tokens.accepted (request.part world option)) = (path.map Path.text).toList) :
    (Tokens.values name (request.optionTokens world requirement)).head? = path.map Path.text := by
  rw [values_optionTokens option listed, said, Option.head?_toList]

theorem read_folder (option : InstallOption) (listed : name ∈ option.names)
    (part : request.part world option = .folder name path) :
    (Tokens.values name (request.optionTokens world requirement)).head? = (path.filter (·.bytes ≠ [])).map Path.text := by
  refine read_path option listed ?_
  rw [part, Tokens.values_folder, givenPath_eq]

theorem read_address (option : InstallOption) {kept : AddressOption} (listed : name ∈ option.names)
    (part : request.part world option = .address name kept value)
    (sound : Tokens.fault? (request.part world option) = none) :
    (Tokens.values name (request.optionTokens world requirement)).head? = Tokens.given value := by
  rw [part] at sound
  rw [values_optionTokens option listed, part, Tokens.values_address sound, Option.head?_toList]

theorem read_requirement :
    (Tokens.values "--requirement" (request.optionTokens world requirement)).head? = requirement.map Path.text := by
  rw [values_requirement, Option.head?_toList]

theorem read_log (sound : Tokens.fault? (request.part world .log) = none) :
    (Tokens.values "--log" (request.optionTokens world requirement)).head? = request.log.map Path.text :=
  read_path .log (by decide) (Tokens.values_log sound)

theorem read_timeout (sound : Tokens.fault? (request.part world .timeout) = none) :
    (Tokens.values "--timeout" (request.optionTokens world requirement)).head? =
      (Tokens.given request.timeout).map Text.trim := by
  rw [values_optionTokens .timeout (by decide)]
  exact (congrArg List.head? (Tokens.values_timeout sound)).trans Option.head?_toList

theorem read_editable (sound : Tokens.fault? (request.part world .editable) = none) :
    Tokens.values "--editable" (request.optionTokens world requirement) =
      request.editable.toList.flatMap ItemList.listed := by
  rw [values_optionTokens .editable (by decide), ← ItemList.itemsOf_eq]
  exact (congrArg _ (Tokens.accepted_editables sound)).trans (Tokens.values_settings _)

theorem read_mirrors (sound : Tokens.fault? (request.part world .mirrors) = none) :
    Tokens.values "--mirrors" (request.optionTokens world requirement) =
      request.mirrors.toList.flatMap ItemList.listed := by
  rw [values_optionTokens .mirrors (by decide), ← ItemList.itemsOf_eq]
  exact Tokens.values_mirrors sound

theorem read_installOptions :
    Tokens.values "--install-option" (request.optionTokens world requirement) = request.installOptions := by
  rw [values_optionTokens .installOptions (by decide)]
  exact Tokens.values_settings request.installOptions

theorem find?_letter (action : ExistsAction) :
    ExistsAction.all.find? (fun other => other.letter = action.letter) = some action := by
  cases action <;> decide

theorem read_existsAction : ((Tokens.values "--exists-action" (request.optionTokens world requirement)).head?.bind
    fun letter => ExistsAction.all.find? fun action => action.letter = letter) = request.existsAction := by
  rw [values_optionTokens .existsAction (by decide)]
  rw [part, Tokens.values_existsAction, Option.head?_toList]
  cases request.existsAction with
  | none => rfl
  | some action => exact find?_letter action

end Reading

theorem parted_at_dash {entries options : List Text} (plain : ∀ entry ∈ entries, entry.head? ≠ some '-')
    (dashed : ∀ token ∈ options, token.head? = some '-') :
    ((entries ++ options).takeWhile fun argument => argument.head? ≠ some '-') = entries ∧
      ((entries ++ options).dropWhile fun argument => argument.head? ≠ some '-') = options := by
  have undashed : ∀ entry ∈ entries, decide (entry.head? ≠ some '-') = true := by simpa using plain
  rw [List.takeWhile_append_of_pos undashed, List.dropWhile_append_of_pos undashed]
  cases options with
  | nil => exact ⟨List.append_nil _, rfl⟩
  | cons first rest => simp [dashed first List.mem_cons_self]

/-- A request that has a plan breaks no rule, and the plan is the whole one. -/
theorem whole_of_plan {plan : Plan} (planned : request.plan world = .ok plan) :
    plan = request.wholePlan world ∧
      ∀ option : InstallOption, Tokens.fault? (request.part world option) = none := by
  have kept := (exists_plan_iff world request).mp ⟨plan, planned⟩
  rw [plan_eq, kept, Except.ok.injEq] at planned
  exact ⟨planned.symm, fun option =>
    (fault?_part world request option).trans (((rules_kept_iff world request).mp kept).2.2 option)⟩

theorem exists_plan_iff_parts : (∃ plan, request.plan world = .ok plan) ↔
    request.namesSomething = true ∧ request.disabledIndex = none ∧
      ∀ option, Tokens.fault? (request.part world option) = none := by
  simp only [exists_plan_iff, rules_kept_iff, fault?_part]

/-- The arguments of a plan can be read back. -/
theorem ofArguments_arguments {plan : Plan} (planned : request.plan world = .ok plan)
    (plain : ∀ entry ∈ request.packages.toList.flatMap ItemList.listed, entry.head? ≠ some '-')
    (requirement : Option Path) : Orders.ofArguments (plan.arguments requirement) = request.orders requirement := by
  obtain ⟨rfl, sound⟩ := whole_of_plan planned
  obtain ⟨entries, options⟩ := parted_at_dash (undashed_of_entries plain)
    fun token (member : token ∈ request.optionTokens world requirement) => dash_of_mem_optionTokens member
  unfold Orders.ofArguments orders
  rw [wholePlan_arguments, List.drop_one, List.cons_append, List.tail_cons]
  simp only [entries, options, read_editable (sound .editable), read_requirement, read_log (sound .log),
    read_timeout (sound .timeout), read_mirrors (sound .mirrors), read_installOptions, read_existsAction,
    read_text .proxy (by decide) rfl,
    read_address .findLinks (by decide) rfl (sound .findLinks),
    read_address .indexUrl (by decide) rfl (sound .indexUrl),
    read_address .extraIndexUrl (by decide) rfl (sound .extraIndexUrl),
    read_switch .noIndex (by decide) rfl, read_switch .upgrade (by decide) rfl,
    read_switch .forceReinstall (by decide) rfl, read_switch .ignoreInstalled (by decide) rfl,
    read_switch .noDependencies (by decide) rfl, read_switch .noInstall (by decide) rfl,
    read_switch .noDownload (by decide) rfl, read_folder .build (by decide) rfl, read_folder .target (by decide) rfl,
    read_folder .download (by decide) rfl, read_folder .downloadCache (by decide) rfl,
    read_folder .source (by decide) rfl]
  rfl

/-- The paths of a request that stand among its arguments. -/
def paths (request : InstallRequest) : List (Option Path) :=
  request.log :: [request.build, request.target, request.download, request.downloadCache, request.source].map
    fun path => path.filter (·.bytes ≠ [])

theorem paths_orders (request : InstallRequest) (requirement : Option Path) :
    (request.orders requirement).paths = request.paths.map (Option.map Path.text) := rfl

/-- Two paths are the same wherever both are text. -/
def SameWhereText (path other : Option Path) : Prop :=
  (∀ given ∈ path, given.IsText) → (∀ given ∈ other, given.IsText) → path = other

/-- The arguments of an installation can be read back to all that was asked for, so two requests with the same
arguments ask for the same, as far as a reader sees the paths, and for the same paths where these are text. -/
theorem arguments_tell_orders {world other : World} {request twin : InstallRequest} {plan second : Plan}
    (planned : request.plan world = .ok plan) (also : twin.plan other = .ok second)
    (plain : ∀ entry ∈ request.packages.toList.flatMap ItemList.listed, entry.head? ≠ some '-')
    (plainToo : ∀ entry ∈ twin.packages.toList.flatMap ItemList.listed, entry.head? ≠ some '-')
    (requirement own : Option Path) :
    Orders.ofArguments (plan.arguments requirement) = request.orders requirement ∧
      (plan.arguments requirement = second.arguments own →
        request.orders requirement = twin.orders own ∧ List.Forall₂ SameWhereText request.paths twin.paths) := by
  have read := ofArguments_arguments planned plain requirement
  refine ⟨read, fun same => ?_⟩
  have orders := calc request.orders requirement = Orders.ofArguments (plan.arguments requirement) := read.symm
    _ = Orders.ofArguments (second.arguments own) := congrArg Orders.ofArguments same
    _ = twin.orders own := ofArguments_arguments also plainToo own
  have seen : request.paths.map (Option.map Path.text) = twin.paths.map (Option.map Path.text) := by
    rw [← paths_orders request requirement, orders, paths_orders]
  rw [← List.forall₂_eq_eq_eq, List.forall₂_map_left_iff, List.forall₂_map_right_iff] at seen
  exact ⟨orders, seen.imp fun _ _ same is also => Path.eq_of_texts is also same⟩

def masqueradeRequest : InstallRequest where
  packages := some (.joined "six >1;<2, seven")
  editable := some (.many ["/srv/--proxy=a", " "])
  proxy := some "--download=b"
  timeout := some " +7 "
  download := some "--download-cache=c"
  noIndex := true
  installOptions := ["--no-index", "--mirrors=d", ""]

def sparseRequest : InstallRequest where
  packages := some (.many ["six >1,<2", "", "seven"])
  editable := some (.joined "/srv/--proxy=a,")
  proxy := some "--download=b"
  timeout := some "+7"
  indexUrl := some ""
  build := some ""
  download := some "--download-cache=c"
  noIndex := true
  mirrors := some (.joined " ,")
  installOptions := ["--no-index", "--mirrors=d", ""]

theorem arguments_tell_orders_masked :
    let world : World := { disk := {}, host := { folder := [] } }
    ∃ plan second : Plan, masqueradeRequest.plan world = .ok plan ∧ sparseRequest.plan world = .ok second ∧
      (∀ entry ∈ masqueradeRequest.packages.toList.flatMap ItemList.listed, entry.head? ≠ some '-') ∧
      (∀ entry ∈ sparseRequest.packages.toList.flatMap ItemList.listed, entry.head? ≠ some '-') ∧
      plan.arguments (some "reqs.txt") = second.arguments (some "reqs.txt") ∧
      masqueradeRequest.orders (some "reqs.txt") = sparseRequest.orders (some "reqs.txt") ∧
      List.Forall₂ SameWhereText masqueradeRequest.paths sparseRequest.paths := by
  intro world
  have planned : masqueradeRequest.plan world = .ok (masqueradeRequest.wholePlan world) := by decide +kernel
  have also : sparseRequest.plan world = .ok (sparseRequest.wholePlan world) := by decide +kernel
  have plain : ∀ entry ∈ masqueradeRequest.packages.toList.flatMap ItemList.listed, entry.head? ≠ some '-' := by
    decide +kernel
  have plainToo : ∀ entry ∈ sparseRequest.packages.toList.flatMap ItemList.listed, entry.head? ≠ some '-' := by
    decide +kernel
  have same : (masqueradeRequest.wholePlan world).arguments (some "reqs.txt") =
      (sparseRequest.wholePlan world).arguments (some "reqs.txt") := by decide +kernel
  exact ⟨_, _, planned, also, plain, plainToo, same,
    (arguments_tell_orders planned also plain plainToo (some "reqs.txt") (some "reqs.txt")).2 same⟩

/-- Two folders that a reader sees alike are told apart by no argument. -/
theorem arguments_blur_folders :
    let world : World := { disk := {}, host := { folder := [] } }
    let first : InstallRequest := { packages := some (.joined "six"), build := some ⟨Text.encoded "/srv/" ++ [0xFE]⟩ }
    let second : InstallRequest := { packages := some (.joined "six"), build := some ⟨Text.encoded "/srv/" ++ [0xFF]⟩ }
    ∃ plan twin : Plan, first.plan world = .ok plan ∧ second.plan world = .ok twin ∧
      (∀ entry ∈ first.packages.toList.flatMap ItemList.listed, entry.head? ≠ some '-') ∧
      (∀ entry ∈ second.packages.toList.flatMap ItemList.listed, entry.head? ≠ some '-') ∧
      plan.arguments none = twin.arguments none ∧ first.build ≠ second.build := by
  intro world first second
  exact ⟨first.wholePlan world, second.wholePlan world, by decide +kernel, by decide +kernel, by decide +kernel,
    by decide +kernel, by decide +kernel, by decide⟩

end InstallRequest

end PipDriver
