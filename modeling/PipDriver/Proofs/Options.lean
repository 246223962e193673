import PipDriver.Proofs.Plans
import PipDriver.Proofs.Spelling

/-!
The options of an installation on their own. Each option is checked and written as if it were the only one; only
a package index that is named and switched off is a matter of two. The first rule that is broken is reported.
-/

namespace PipDriver

inductive InstallOption
  | editable
  | log
  | proxy
  | timeout
  | findLinks
  | indexUrl
  | extraIndexUrl
  | noIndex
  | mirrors
  | build
  | target
  | download
  | downloadCache
  | source
  | upgrade
  | forceReinstall
  | ignoreInstalled
  | existsAction
  | noDependencies
  | noInstall
  | noDownload
  | installOptions
deriving DecidableEq

namespace InstallOption

def early : List InstallOption := [.log, .proxy, .timeout, .findLinks]

def late : List InstallOption :=
  [.indexUrl, .extraIndexUrl, .noIndex, .mirrors, .build, .target, .download, .downloadCache, .source, .upgrade,
    .forceReinstall, .ignoreInstalled, .existsAction, .noDependencies, .noInstall, .noDownload, .installOptions]

def all : List InstallOption := .editable :: early ++ late

theorem mem_all (option : InstallOption) : option ∈ all := by
  cases option <;> decide

end InstallOption

inductive Rule
  | purpose (given : Bool)
  | egg (entry : Text)
  | log (path : Path)
  | wholeNumber (text : Text)
  | address (option : AddressOption) (text : Text)
  /-- No package index is to be named. -/
  | noAddress (text : Text)
  | mirror (entry : Text)

def Rule.breach? (world : World) : Rule → Option Failure
  | .purpose given => if given then none else some (.invalid .nothingToInstall)
  | .egg entry => if Editable.accepts entry then none else some (.invalid (.namelessEditable entry))
  | .log path =>
    match LogFile.check world path with
    | .ok () => none
    | .error cause => some (.logRefused path cause)
  | .wholeNumber text => if (Timeout.accepted? text).isSome then none else some (.invalid (.badTimeout text))
  | .address option text =>
    if (Address.parse? text).isSome then none else some (.invalid (.badAddress option text))
  | .noAddress text => some (.invalid (.indexDisabled text))
  | .mirror entry => if entry.startsWith "http://" then none else some (.invalid (.badMirror entry))

namespace Tokens

section

variable (world : World)

theorem fault?_editable (entry : Text) : fault? (editable entry) = (Rule.egg entry).breach? world := by
  simp only [editable, Editable.check, Rule.breach?]
  cases Editable.accepts entry <;> rfl

theorem fault?_editables (list : Option ItemList) : fault? (editables list) =
    ((ItemList.itemsOf list).map .egg).findSome? (Rule.breach? world) := by
  rw [editables, fault?_concat, List.findSome?_map, List.findSome?_map]
  have same : fault? ∘ editable = Rule.breach? world ∘ Rule.egg := funext (fault?_editable world)
  rw [same]

theorem fault?_log (path : Option Path) : fault? (log world path) =
    (path.toList.map .log).findSome? (Rule.breach? world) := by
  cases path with
  | none => rfl
  | some path =>
      simp only [log, Option.toList_some, List.map_cons, List.map_nil, List.findSome?_singleton, Rule.breach?]
      cases LogFile.check world path <;> rfl

theorem fault?_timeout (value : Option Text) : fault? (timeout value) =
    ((given value).toList.map .wholeNumber).findSome? (Rule.breach? world) := by
  unfold timeout
  cases given value with
  | none => rfl
  | some text =>
      simp only [Option.toList_some, List.map_cons, List.map_nil, List.findSome?_singleton, Rule.breach?]
      cases Timeout.accepted? text <;> rfl

theorem fault?_address (name : Text) (option : AddressOption) (value : Option Text) :
    fault? (address name option value) =
      ((given value).toList.map (.address option)).findSome? (Rule.breach? world) := by
  unfold address
  cases given value with
  | none => rfl
  | some text =>
      simp only [Option.toList_some, List.map_cons, List.map_nil, List.findSome?_singleton, Rule.breach?]
      cases (Address.parse? text).isSome <;> rfl

theorem fault?_mirror (entry : Text) : fault? (mirror entry) = (Rule.mirror entry).breach? world := by
  simp only [mirror, Rule.breach?]
  cases entry.startsWith "http://" <;> rfl

theorem fault?_mirrors (list : Option ItemList) : fault? (mirrors list) =
    ((ItemList.itemsOf list).map .mirror).findSome? (Rule.breach? world) := by
  unfold mirrors
  simp only []
  split
  · rename_i empty
    simp [empty, fault?]
  · have same : fault? ∘ mirror = Rule.breach? world ∘ Rule.mirror := funext (fault?_mirror world)
    rw [fault?_concat, List.findSome?_cons, List.findSome?_map, List.findSome?_map, same]
    rfl

end

variable {name : Text}

theorem given_path (path : Option Path) : given (path.map Path.text) = (givenPath path).map Path.text := by
  cases path with
  | none => rfl
  | some path =>
      rw [Option.map_some, given, givenPath, Option.filter_some, Option.filter_some, Path.isEmpty]
      by_cases empty : path.bytes = []
      · simp [empty, Path.text]
      · simp [empty, Path.text]

theorem accepted_timeout {value : Option Text} (kept : fault? (timeout value) = none) :
    accepted (timeout value) = (((given value).map Text.trim).map (setting "--timeout")).toList := by
  unfold timeout at kept ⊢
  cases said : given value with
  | none => rfl
  | some text =>
      rw [said] at kept
      cases read : Timeout.accepted? text with
      | none => simp [read, fault?] at kept
      | some number =>
          have trimmed : number = text.trim := by
            unfold Timeout.accepted? at read
            split at read
            · exact (Option.some.inj read).symm
            · cases read
          subst trimmed
          simp [read]

theorem accepted_address {option : AddressOption} {value : Option Text}
    (kept : fault? (address name option value) = none) :
    accepted (address name option value) = ((given value).map (setting name)).toList := by
  unfold address at kept ⊢
  cases said : given value with
  | none => rfl
  | some text =>
      rw [said] at kept
      cases proper : (Address.parse? text).isSome with
      | false => simp [proper, fault?] at kept
      | true => simp [proper]

theorem accepted_log {world : World} {path : Option Path} (kept : fault? (log world path) = none) :
    accepted (log world path) = (path.map fun path => setting "--log" path.text).toList := by
  cases path with
  | none => rfl
  | some path =>
      unfold log at kept ⊢
      cases checked : LogFile.check world path with
      | ok _ => simp [checked]
      | error cause => simp [checked, fault?] at kept

theorem accepted_mirror {entry : Text} (kept : fault? (mirror entry) = none) :
    accepted (mirror entry) = [setting "--mirrors" entry] := by
  unfold mirror at kept ⊢
  split at kept
  · rename_i proper
    rw [if_pos proper]
    rfl
  · cases kept

theorem accepted_mirrors {list : Option ItemList} (kept : fault? (mirrors list) = none) : accepted (mirrors list) =
    if ItemList.itemsOf list = [] then []
    else ("--use-mirrors" : Text) :: (ItemList.itemsOf list).map (setting "--mirrors") := by
  simp only [mirrors] at kept ⊢
  by_cases empty : ItemList.itemsOf list = []
  · rw [if_pos empty, if_pos empty]
    rfl
  · rw [if_neg empty, fault?_concat] at kept
    rw [if_neg empty, if_neg empty, accepted_concat kept, List.flatMap_cons, List.flatMap_map, List.map_eq_flatMap]
    rw [findSome?_fault?_cons, Option.or_eq_none_iff, List.findSome?_map, List.findSome?_eq_none_iff] at kept
    exact congrArg _ (List.flatMap_congr fun entry member => accepted_mirror (kept.2 entry member))

theorem accepted_editables {list : Option ItemList} (kept : fault? (editables list) = none) :
    accepted (editables list) = (ItemList.itemsOf list).map (setting "--editable") := by
  rw [editables, fault?_concat, List.findSome?_map, List.findSome?_eq_none_iff] at kept
  rw [editables, accepted_concat, List.flatMap_map, List.map_eq_flatMap]
  · exact congrArg List.flatten (List.map_congr_left fun entry member => accepted_editable (kept entry member))
  · rwa [List.findSome?_map, List.findSome?_eq_none_iff]

end Tokens

namespace InstallRequest

def only (request : InstallRequest) (package : Text) (option : InstallOption) : InstallRequest :=
  let alone : InstallRequest := { packages := some (.many [package]) }
  match option with
  | .editable => { alone with editable := request.editable }
  | .log => { alone with log := request.log }
  | .proxy => { alone with proxy := request.proxy }
  | .timeout => { alone with timeout := request.timeout }
  | .findLinks => { alone with findLinks := request.findLinks }
  | .indexUrl => { alone with indexUrl := request.indexUrl }
  | .extraIndexUrl => { alone with extraIndexUrl := request.extraIndexUrl }
  | .noIndex => { alone with noIndex := request.noIndex }
  | .mirrors => { alone with mirrors := request.mirrors }
  | .build => { alone with build := request.build }
  | .target => { alone with target := request.target }
  | .download => { alone with download := request.download }
  | .downloadCache => { alone with downloadCache := request.downloadCache }
  | .source => { alone with source := request.source }
  | .upgrade => { alone with upgrade := request.upgrade }
  | .forceReinstall => { alone with forceReinstall := request.forceReinstall }
  | .ignoreInstalled => { alone with ignoreInstalled := request.ignoreInstalled }
  | .existsAction => { alone with existsAction := request.existsAction }
  | .noDependencies => { alone with noDependencies := request.noDependencies }
  | .noInstall => { alone with noInstall := request.noInstall }
  | .noDownload => { alone with noDownload := request.noDownload }
  | .installOptions => { alone with installOptions := request.installOptions }

def part (world : World) (request : InstallRequest) : InstallOption → Tokens
  | .editable => .editables request.editable
  | .log => .log world request.log
  | .proxy => .text "--proxy" request.proxy
  | .timeout => .timeout request.timeout
  | .findLinks => .address "--find-links" .findLinks request.findLinks
  | .indexUrl => .address "--index-url" .indexUrl request.indexUrl
  | .extraIndexUrl => .address "--extra-index-url" .extraIndexUrl request.extraIndexUrl
  | .noIndex => .switch "--no-index" request.noIndex
  | .mirrors => .mirrors request.mirrors
  | .build => .folder "--build" request.build
  | .target => .folder "--target" request.target
  | .download => .folder "--download" request.download
  | .downloadCache => .folder "--download-cache" request.downloadCache
  | .source => .folder "--source" request.source
  | .upgrade => .switch "--upgrade" request.upgrade
  | .forceReinstall => .switch "--force-reinstall" request.forceReinstall
  | .ignoreInstalled => .switch "--ignore-installed" request.ignoreInstalled
  | .existsAction => .existsAction request.existsAction
  | .noDependencies => .switch "--no-deps" request.noDependencies
  | .noInstall => .switch "--no-install" request.noInstall
  | .noDownload => .switch "--no-download" request.noDownload
  | .installOptions => .installOptions request.installOptions

def demands (request : InstallRequest) : InstallOption → List Rule
  | .editable => (ItemList.itemsOf request.editable).map .egg
  | .log => request.log.toList.map .log
  | .timeout => (Tokens.given request.timeout).toList.map .wholeNumber
  | .findLinks => (Tokens.given request.findLinks).toList.map (.address .findLinks)
  | .indexUrl => (Tokens.given request.indexUrl).toList.map (.address .indexUrl)
  | .extraIndexUrl => (Tokens.given request.extraIndexUrl).toList.map (.address .extraIndexUrl)
  | .mirrors => (ItemList.itemsOf request.mirrors).map .mirror
  | _ => []

/-- A package index that is named although none is to be used. -/
def disabledIndex (request : InstallRequest) : Option Text :=
  if request.noIndex then (Tokens.given request.indexUrl).or (Tokens.given request.extraIndexUrl) else none

/-- Everything that is demanded of a request, in the order in which it is looked at. -/
def rules (request : InstallRequest) : List Rule :=
  .purpose request.namesSomething :: request.demands .editable ++ request.demands .log ++
    request.demands .timeout ++ request.demands .findLinks ++ request.disabledIndex.toList.map .noAddress ++
    request.demands .indexUrl ++ request.demands .extraIndexUrl ++ request.demands .mirrors

def packageTokens (request : InstallRequest) : List Text := ItemList.handed request.packages

def filled (value : Option Text) : List Text := value.toList.filter (· ≠ [])

/-- The arguments of an option, spelled out. -/
def written (request : InstallRequest) : InstallOption → List Text
  | .editable => (request.editable.toList.flatMap ItemList.listed).map (("--editable=" : Text) ++ ·)
  | .log => request.log.toList.map fun path => ("--log=" : Text) ++ path.text
  | .proxy => (filled request.proxy).map (("--proxy=" : Text) ++ ·)
  | .timeout => (filled request.timeout).map fun text => ("--timeout=" : Text) ++ text.trim
  | .findLinks => (filled request.findLinks).map (("--find-links=" : Text) ++ ·)
  | .indexUrl => (filled request.indexUrl).map (("--index-url=" : Text) ++ ·)
  | .extraIndexUrl => (filled request.extraIndexUrl).map (("--extra-index-url=" : Text) ++ ·)
  | .noIndex => if request.noIndex then ["--no-index"] else []
  | .mirrors =>
    match request.mirrors.toList.flatMap ItemList.listed with
    | [] => []
    | entries => "--use-mirrors" :: entries.map (("--mirrors=" : Text) ++ ·)
  | .build => (filled (request.build.map Path.text)).map (("--build=" : Text) ++ ·)
  | .target => (filled (request.target.map Path.text)).map (("--target=" : Text) ++ ·)
  | .download => (filled (request.download.map Path.text)).map (("--download=" : Text) ++ ·)
  | .downloadCache => (filled (request.downloadCache.map Path.text)).map (("--download-cache=" : Text) ++ ·)
  | .source => (filled (request.source.map Path.text)).map (("--source=" : Text) ++ ·)
  | .upgrade => if request.upgrade then ["--upgrade"] else []
  | .forceReinstall => if request.forceReinstall then ["--force-reinstall"] else []
  | .ignoreInstalled => if request.ignoreInstalled then ["--ignore-installed"] else []
  | .existsAction =>
    match request.existsAction with
    | none => []
    | some .switch => ["--exists-action=s"]
    | some .ignore => ["--exists-action=i"]
    | some .wipe => ["--exists-action=w"]
    | some .backup => ["--exists-action=b"]
  | .noDependencies => if request.noDependencies then ["--no-deps"] else []
  | .noInstall => if request.noInstall then ["--no-install"] else []
  | .noDownload => if request.noDownload then ["--no-download"] else []
  | .installOptions => request.installOptions.map (("--install-option=" : Text) ++ ·)

def wholePlan (world : World) (request : InstallRequest) : Plan where
  leading := ("install" : Text) :: request.packageTokens ++ Tokens.accepted (request.part world .editable)
  source := request.requirements
  trailing := (InstallOption.early ++ InstallOption.late).flatMap fun option =>
    Tokens.accepted (request.part world option)

section

variable (world : World) (request : InstallRequest) (package : Text)

theorem part_only (option other : InstallOption) : (request.only package option).part world other =
    if other = option then request.part world option else .ok [] := by
  cases option <;> cases other <;> rfl

theorem demands_only (option other : InstallOption) : (request.only package option).demands other =
    if other = option then request.demands option else [] := by
  cases option <;> cases other <;> rfl

theorem disabledIndex_only (option : InstallOption) : (request.only package option).disabledIndex = none := by
  cases option <;> simp [disabledIndex, only, Tokens.given]

theorem fault?_indexConflict :
    Tokens.fault? (.indexConflict request.noIndex request.indexUrl request.extraIndexUrl) =
      (request.disabledIndex.toList.map .noAddress).findSome? (Rule.breach? world) := by
  unfold Tokens.indexConflict disabledIndex
  cases request.noIndex with
  | false => rfl
  | true =>
      simp only [if_true]
      cases (Tokens.given request.indexUrl).or (Tokens.given request.extraIndexUrl) <;> rfl

theorem fault?_part (option : InstallOption) : Tokens.fault? (request.part world option) =
    (request.demands option).findSome? (Rule.breach? world) := by
  cases option with
  | editable => exact Tokens.fault?_editables world _
  | log => exact Tokens.fault?_log world _
  | timeout => exact Tokens.fault?_timeout world _
  | findLinks => exact Tokens.fault?_address world _ _ _
  | indexUrl => exact Tokens.fault?_address world _ _ _
  | extraIndexUrl => exact Tokens.fault?_address world _ _ _
  | mirrors => exact Tokens.fault?_mirrors world _
  | _ => rfl

theorem rules_eq : request.rules = .purpose request.namesSomething ::
    ((.editable :: InstallOption.early).flatMap request.demands ++
      (request.disabledIndex.toList.map .noAddress ++ InstallOption.late.flatMap request.demands)) := by
  simp [rules, InstallOption.early, InstallOption.late, demands]

theorem leadingParts_eq : request.leadingParts =
    [.ok ["install"], .ok request.packageTokens, request.part world .editable] := by
  rw [packageTokens, ItemList.handed_eq]
  rfl

theorem trailingParts_eq : request.trailingParts world = InstallOption.early.map (request.part world) ++
    .indexConflict request.noIndex request.indexUrl request.extraIndexUrl ::
      InstallOption.late.map (request.part world) := rfl

theorem findSome?_parts (options : List InstallOption) :
    (options.map (request.part world)).findSome? Tokens.fault? =
      (options.flatMap request.demands).findSome? (Rule.breach? world) := by
  induction options with
  | nil => rfl
  | cons option rest ih =>
      rw [List.map_cons, Tokens.findSome?_fault?_cons, List.flatMap_cons, List.findSome?_append, ih, fault?_part]

theorem findSome?_allParts : (request.leadingParts ++ request.trailingParts world).findSome? Tokens.fault? =
    request.rules.tail.findSome? (Rule.breach? world) := by
  rw [leadingParts_eq world, trailingParts_eq, rules_eq, List.tail_cons]
  simp only [Tokens.findSome?_fault?_cons, List.findSome?_append, findSome?_parts, List.flatMap_cons, fault?_part,
    fault?_indexConflict world request, Tokens.fault?_ok, Option.none_or, Option.or_none, List.findSome?_nil,
    Option.or_assoc]

theorem ofParts_accepted : (⟨request.leadingParts.flatMap Tokens.accepted, request.requirements,
    (request.trailingParts world).flatMap Tokens.accepted⟩ : Plan) = wholePlan world request := by
  rw [leadingParts_eq world, trailingParts_eq, wholePlan]
  simp [List.flatMap_map, Tokens.accepted_indexConflict]

/-- A request is refused for the first rule that it breaks, and has a plan if it breaks none. -/
theorem plan_eq : request.plan world =
    match request.rules.findSome? (Rule.breach? world) with
    | some failure => .error failure
    | none => .ok (wholePlan world request) := by
  have split : request.rules = .purpose request.namesSomething :: request.rules.tail := by
    rw [rules_eq, List.tail_cons]
  rw [plan, Plan.ofParts_eq, findSome?_allParts, ofParts_accepted, split, List.tail_cons, List.findSome?_cons,
    Rule.breach?]
  cases request.namesSomething with
  | false => rfl
  | true => rfl

theorem namesSomething_iff : request.namesSomething = true ↔
    (∃ list, request.packages = some list ∧ list.HasEntry) ∨ request.requirements.isSome ∨
      (∃ list, request.editable = some list ∧ list.HasEntry) := by
  simp only [namesSomething, Bool.or_eq_true, decide_eq_true_eq, ItemList.itemsOf_ne_nil_iff, or_assoc]

theorem disabledIndex_eq_none_iff : request.disabledIndex = none ↔
    ¬(request.noIndex = true ∧ ∃ text, text ≠ [] ∧
      (request.indexUrl = some text ∨ request.extraIndexUrl = some text)) := by
  unfold disabledIndex
  cases request.noIndex with
  | false => simp
  | true =>
      simp only [Tokens.given, if_true, Option.or_eq_none_iff, Option.filter_eq_none_iff, decide_eq_true_eq,
        not_not]
      grind

theorem mem_rules_iff {rule : Rule} : rule ∈ request.rules ↔
    rule = .purpose request.namesSomething ∨ rule ∈ request.disabledIndex.toList.map .noAddress ∨
      ∃ option, rule ∈ request.demands option := by
  have either (option : InstallOption) : option ∈ InstallOption.editable :: InstallOption.early ∨
      option ∈ InstallOption.late := List.mem_append.mp option.mem_all
  simp only [rules_eq, List.mem_cons, List.mem_append, List.mem_flatMap]
  grind

theorem rules_kept_iff : request.rules.findSome? (Rule.breach? world) = none ↔
    request.namesSomething = true ∧ request.disabledIndex = none ∧
      ∀ option, (request.demands option).findSome? (Rule.breach? world) = none := by
  simp only [List.findSome?_eq_none_iff, mem_rules_iff]
  constructor
  · intro kept
    have purpose := kept _ (Or.inl rfl)
    refine ⟨by simpa [Rule.breach?] using purpose, ?_, fun option rule demanded =>
      kept rule (Or.inr (Or.inr ⟨option, demanded⟩))⟩
    cases named : request.disabledIndex with
    | none => rfl
    | some text => simpa [Rule.breach?] using kept (.noAddress text) (Or.inr (Or.inl (by simp [named])))
  · rintro ⟨purpose, unnamed, kept⟩ rule (rfl | forbidden | ⟨option, demanded⟩)
    · simp [Rule.breach?, purpose]
    · simp [unnamed] at forbidden
    · exact kept option rule demanded

theorem exists_plan_iff : (∃ plan, request.plan world = .ok plan) ↔
    request.rules.findSome? (Rule.breach? world) = none := by
  rw [plan_eq]
  cases request.rules.findSome? (Rule.breach? world) <;> simp

theorem namesSomething_only {package : Text} (given : package.allBlank = false) (option : InstallOption) :
    (request.only package option).namesSomething = true := by
  have named : ItemList.itemsOf (some (.many [package])) ≠ [] := by
    simp [ItemList.itemsOf, ItemList.items, given]
  cases option <;> simp [namesSomething, only, named]

theorem rules_only {package : Text} (given : package.allBlank = false) (option : InstallOption) :
    (request.only package option).rules = .purpose true :: request.demands option := by
  cases option <;>
    simp [rules, demands_only, disabledIndex_only, namesSomething_only request given] <;> rfl

theorem filled_eq (value : Option Text) : filled value = (Tokens.given value).toList := by
  cases value with
  | none => rfl
  | some text =>
      by_cases empty : text = []
      · simp [filled, Tokens.given, empty]
      · rw [(Tokens.given_eq_some_iff).mpr ⟨rfl, empty⟩]
        simp [filled, empty]

theorem accepted_text {name : Text} (start : Text) (same : ∀ value, start ++ value = Tokens.setting name value)
    (value : Option Text) : Tokens.accepted (.text name value) = (filled value).map (start ++ ·) := by
  rw [filled_eq, funext same, Tokens.text, Tokens.accepted_ok, Option.toList_map]

theorem accepted_address {name : Text} {option : AddressOption} (start : Text)
    (same : ∀ value, start ++ value = Tokens.setting name value) {value : Option Text}
    (kept : Tokens.fault? (.address name option value) = none) :
    Tokens.accepted (.address name option value) = (filled value).map (start ++ ·) := by
  rw [filled_eq, funext same, Tokens.accepted_address kept, Option.toList_map]

/-- Where an option is not refused, it is written as it is spelled out. -/
theorem accepted_part {option : InstallOption} (kept : Tokens.fault? (request.part world option) = none) :
    Tokens.accepted (request.part world option) = request.written option := by
  cases option with
  | editable => exact (Tokens.accepted_editables kept).trans (congrArg _ (ItemList.itemsOf_eq _))
  | log => exact (Tokens.accepted_log kept).trans Option.toList_map
  | timeout =>
      refine (Tokens.accepted_timeout kept).trans ?_
      rw [written, filled_eq, Option.map_map, Option.toList_map]
      rfl
  | findLinks => exact accepted_address "--find-links=" (fun _ => rfl) kept
  | indexUrl => exact accepted_address "--index-url=" (fun _ => rfl) kept
  | extraIndexUrl => exact accepted_address "--extra-index-url=" (fun _ => rfl) kept
  | mirrors =>
      refine (Tokens.accepted_mirrors kept).trans ?_
      rw [written, ItemList.itemsOf_eq]
      cases request.mirrors.toList.flatMap ItemList.listed <;> rfl
  | proxy => exact accepted_text "--proxy=" (fun _ => rfl) _
  | build => exact accepted_text "--build=" (fun _ => rfl) _
  | target => exact accepted_text "--target=" (fun _ => rfl) _
  | download => exact accepted_text "--download=" (fun _ => rfl) _
  | downloadCache => exact accepted_text "--download-cache=" (fun _ => rfl) _
  | source => exact accepted_text "--source=" (fun _ => rfl) _
  | existsAction =>
      rw [part, written]
      cases request.existsAction with
      | none => rfl
      | some action => cases action <;> rfl
  | _ => rfl

theorem trailing_only (package : Text) (option : InstallOption) :
    (wholePlan world (request.only package option)).trailing =
      if option = .editable then [] else Tokens.accepted (request.part world option) := by
  simp only [wholePlan, part_only, InstallOption.early, InstallOption.late]
  cases option <;> simp

theorem trailing_alone (package : Text) :
    (InstallOption.all.flatMap fun option => (wholePlan world (request.only package option)).trailing) =
      (wholePlan world request).trailing := by
  simp only [trailing_only]
  simp [InstallOption.all, InstallOption.early, InstallOption.late, wholePlan]

end

/-- Every option is accepted and written as it is on its own, but for a package index that is named and switched
off; the first rule that is broken is reported. -/
theorem plan_composes (world : World) (request : InstallRequest) {package : Text}
    (given : package.allBlank = false) :
    ((∃ plan, request.plan world = .ok plan) ↔
      ((∃ list, request.packages = some list ∧ list.HasEntry) ∨ request.requirements.isSome = true ∨
        ∃ list, request.editable = some list ∧ list.HasEntry) ∧
      (∀ option, ∃ plan, (request.only package option).plan world = .ok plan) ∧
      ¬(request.noIndex = true ∧ ∃ text, text ≠ [] ∧
        (request.indexUrl = some text ∨ request.extraIndexUrl = some text))) ∧
    (∀ plan, request.plan world = .ok plan → ∃ alone : InstallOption → Plan,
      (∀ option, (request.only package option).plan world = .ok (alone option) ∧
        (alone option).trailing = if option = .editable then [] else request.written option) ∧
      ∀ requirement, plan.arguments requirement =
        ("install" : Text) :: ItemList.handed request.packages ++ request.written .editable ++
          requirement.toList.map (fun path => ("--requirement=" : Text) ++ path.text) ++
          InstallOption.all.flatMap fun option => (alone option).trailing) ∧
    ∀ failure, request.plan world = .error failure ↔
      request.rules.findSome? (Rule.breach? world) = some failure := by
  have alone (option : InstallOption) : (∃ plan, (request.only package option).plan world = .ok plan) ↔
      (request.demands option).findSome? (Rule.breach? world) = none := by
    rw [exists_plan_iff, rules_only request given]
    rfl
  refine ⟨?_, ?_, ?_⟩
  · rw [exists_plan_iff, rules_kept_iff, namesSomething_iff, disabledIndex_eq_none_iff]
    simp only [alone]
    exact and_congr_right fun _ => and_comm
  · intro plan accepted
    have kept := (exists_plan_iff world request).mp ⟨plan, accepted⟩
    have sound (option : InstallOption) : Tokens.fault? (request.part world option) = none :=
      (fault?_part world request option).trans (((rules_kept_iff world request).mp kept).2.2 option)
    refine ⟨fun option => wholePlan world (request.only package option), ?_, ?_⟩
    · intro option
      have kept := (alone option).mpr (((rules_kept_iff world request).mp kept).2.2 option)
      refine ⟨by rw [plan_eq, (exists_plan_iff world _).mp kept], ?_⟩
      rw [trailing_only, accepted_part world request (sound option)]
    · intro requirement
      rw [plan_eq, kept, Except.ok.injEq] at accepted
      subst accepted
      have requirements : requirementTokens requirement =
          requirement.toList.map fun path => ("--requirement=" : Text) ++ path.text := Option.toList_map
      rw [trailing_alone, Plan.arguments, ← accepted_part world request (sound .editable), ← requirements]
      rfl
  · intro failure
    rw [plan_eq]
    cases request.rules.findSome? (Rule.breach? world) <;> simp

def conflictingRequest : InstallRequest where
  editable := some (.many ["/srv/app"])
  timeout := some "7"
  indexUrl := some "http://host/simple"
  noIndex := true

theorem plan_composes_conflicting :
    let world : World := { disk := {}, host := { folder := [] } }
    Text.allBlank "six" = false ∧
    InstallOption.all.all (fun option => ((conflictingRequest.only "six" option).plan world).toOption.isSome) ∧
    (¬∃ plan, conflictingRequest.plan world = .ok plan) ∧
    conflictingRequest.plan world = .error (.invalid (.indexDisabled "http://host/simple")) := by
  intro world
  have named : Text.allBlank "six" = false := by decide
  obtain ⟨accepted, -, refused⟩ := plan_composes world conflictingRequest named
  refine ⟨named, by decide +kernel, ?_, (refused _).mpr (by decide +kernel)⟩
  rw [accepted]
  rintro ⟨-, -, compatible⟩
  exact compatible ⟨rfl, _, by decide, Or.inl rfl⟩

end InstallRequest

end PipDriver
