import PipDriver.Proofs.Plans
import PipDriver.Proofs.Preparation
import PipDriver.Proofs.Requirement
import PipDriver.Proofs.LinkFreePaths

/-!
Paths that a call finds in the folder of the program, and that pip reads in the folder it is started in. They lead
to one place just if they are absolute, or the two folders are one.
-/

namespace PipDriver

open Bytes (dot)

open Disk

def Place.location : Place → Location
  | .occupied location _ => location
  | .vacant folder name _ => folder ++ [name]

namespace Path

variable {disk : Disk} {here there : Location} {path : Path} {place : Place}

theorem location_of_find (linkFree : LinkFree disk) (found : disk.find here path = .ok place) :
    place.location = path.spot here := by
  rw [find_eq_walk (usable_of_find found)] at found
  rcases ends_of_walk linkFree found with ⟨-, rfl⟩ | ⟨front, last, names, -, plain, ⟨-, rfl⟩ | ⟨entry, -, -, -, rfl⟩⟩
  · rfl
  · rw [spot, names, reach_append, reach_cons _ _ plain.notDot plain.notDots, reach_nil, Place.location]
  · rw [spot, names, reach_append, reach_cons _ _ plain.notDot plain.notDots, reach_nil, Place.location]

theorem find_absolute (absolute : path.isAbsolute = true) : disk.find there path = disk.find here path := by
  have start : (Route.ofBytes path.bytes).absolute = true := absolute
  simp only [find, start, if_true]

/-- A relative path that stays below its folder leads to different places from different folders. -/
theorem find_elsewhere_iff (linkFree : LinkFree disk) (inside : [dot, dot] ∉ path.route.names)
    (found : disk.find here path = .ok place) :
    disk.find there path = disk.find here path ↔ path.isAbsolute = true ∨ there = here := by
  constructor
  · intro same
    rw [found] at same
    have spots : path.spot there = path.spot here :=
      (location_of_find linkFree same).symm.trans (location_of_find linkFree found)
    rw [spot, spot, reach_inside _ inside, reach_inside _ inside, List.append_cancel_right_eq] at spots
    unfold startOf at spots
    split at spots
    · exact Or.inl ‹_›
    · exact Or.inr spots
  · rintro (absolute | rfl)
    · exact find_absolute absolute
    · rfl

end Path

structure Needs where
  program : Option Path
  activates : Bool := false
  log : Option Path := none
  resource : Option Text := none

inductive Needs.Relied (services : Services) (world : World) (needs : Needs) : Path → Prop
  | pip {environment : Path} (given : needs.program = some environment) (named : environment.isEmpty = false)
      (folder : world.isFolder environment = true) : Relied services world needs (services.layout.pipIn environment)
  | script {environment : Path} (given : needs.program = some environment) (asked : needs.activates = true)
      (shell : services.layout = .posix) : Relied services world needs (services.layout.activationIn environment)
  | log {path : Path} (given : needs.log = some path) : Relied services world needs path
  | copy {uri : Text} {path : Path} (given : needs.resource = some uri)
      (placed : services.cache.copyPath uri = .ok path) : Relied services world needs path

/-- From another folder, all of them are what they are from that of the program. -/
def Needs.Coherent (services : Services) (world : World) (needs : Needs) (disk : Disk) (there : Location) : Prop :=
  ∀ path, needs.Relied services world path → disk.find there path = disk.find world.host.folder path

def handedOver (source : Option Source) (user : Option Text) (keepOwner : Bool) : Option Text :=
  match source with
  | some (.remote uri) => if user = none || keepOwner then some uri else none
  | _ => none

def InstallRequest.needs (request : InstallRequest) : Needs where
  program := request.chosenProgram
  activates := request.activate
  log := request.log
  resource := handedOver request.requirements request.user request.keepOwner

def UninstallRequest.needs (request : UninstallRequest) : Needs where
  program := request.program
  log := request.log
  resource := handedOver request.requirements request.user request.keepOwner

def Context.needs (context : Context) : Needs where
  program := context.program

def Invocation.Names (invocation : Invocation) (path : Path) : Prop :=
  invocation.command.program = path ∨ invocation.command.activation = some path ∨
    ("--log=" : Text) ++ path.text ∈ invocation.command.arguments ∨
    ("--requirement=" : Text) ++ path.text ∈ invocation.command.arguments

/-- The run that came last between two worlds, and the disk that it found. -/
def RanLast (before after : World) (invocation : Invocation) (found : Disk) : Prop :=
  ∃ earlier bytes left, after.events = before.events ++ earlier ++ [.invoked invocation bytes, .lent found left]

def startedIn (disk : Disk) (own : Location) : Option Path → Except Fault Location
  | none => .ok own
  | some path => disk.folderAt own path

structure Needs.Kept (services : Services) (world : World) (needs : Needs) (folder : Option Path) (ran : Invocation)
    (found : Disk) : Prop where
  started : ran.folder = folder
  named : ∀ path, needs.Relied services world path → ran.Names path
  coherent : ∀ there, startedIn found world.host.folder folder = .ok there →
    there = world.host.folder ∨ (∀ path, needs.Relied services world path → path.isAbsolute = true) →
      needs.Coherent services world found there
  /-- Nothing else keeps the paths, where they are plain and lead somewhere. -/
  only : ∀ there, startedIn found world.host.folder folder = .ok there → found.LinkFree →
    (∀ path, needs.Relied services world path → [dot, dot] ∉ path.route.names ∧
      ∃ place, found.find world.host.folder path = .ok place) →
    needs.Coherent services world found there →
      there = world.host.folder ∨ ∀ path, needs.Relied services world path → path.isAbsolute = true

theorem InstallRequest.log_of_plan {world : World} {request : InstallRequest} {plan : Plan} {path : Path}
    (planned : request.plan world = .ok plan) (given : request.log = some path) :
    Tokens.setting "--log" path.text ∈ plan.trailing := by
  unfold InstallRequest.plan at planned
  split at planned
  · exact Plan.mem_trailing_log planned given List.mem_cons_self
  · cases planned

theorem UninstallRequest.log_of_plan {world : World} {request : UninstallRequest} {plan : Plan} {path : Path}
    (planned : request.plan world = .ok plan) (given : request.log = some path) :
    Tokens.setting "--log" path.text ∈ plan.trailing := by
  unfold UninstallRequest.plan at planned
  split at planned
  · exact Plan.mem_trailing_log planned given List.mem_cons_self
  · cases planned

namespace Pip

theorem pipIn_of_located {world : World} {layout : Layout} {chosen : Option Path} {program environment : Path}
    (located : Locate.pip world layout chosen = .ok program) (given : chosen = some environment)
    (named : environment.isEmpty = false) (folder : world.isFolder environment = true) :
    program = layout.pipIn environment := by
  simp only [Locate.pip, Locate.pipIn, given, Option.filter, named, Bool.not_false, if_true, folder] at located
  split at located
  · exact (Except.ok.inj located).symm
  · cases located

theorem script_of_activated {world : World} {layout : Layout} {request : InstallRequest} {activation : Option Path}
    {environment : Path} (activated : installActivation world layout request = .ok activation)
    (given : request.chosenProgram = some environment) (asked : request.activate = true) (shell : layout = .posix) :
    activation = some (layout.activationIn environment) := by
  subst shell
  simp only [installActivation, asked, given, Option.isSome_some, Bool.and_self, if_true, Locate.activation,
    Locate.activationScript] at activated
  split at activated
  · cases activated
  · rename_i path chosen
    rw [Option.filter_eq_some_iff, Option.some.injEq] at chosen
    obtain ⟨rfl, -⟩ := chosen
    split at activated
    · cases activated
    · split at activated
      · exact (Except.ok.inj activated).symm
      · cases activated

theorem handedOver_eq_some_iff {source : Option Source} {user : Option Text} {keepOwner : Bool} {uri : Text} :
    handedOver source user keepOwner = some uri ↔
      source = some (.remote uri) ∧ (user = none ∨ keepOwner = true) := by
  unfold handedOver
  split
  · rename_i other
    split
    · rename_i own
      have own : user = none ∨ keepOwner = true := by simpa using own
      simp [own]
    · rename_i other
      have other : ¬(user = none ∨ keepOwner = true) := by simpa using other
      simp [other]
  · rename_i other
    simpa using fun same => (other uri same).elim

theorem invoked_of_told {services : Services} {earlier events : List Event} {invocation other : Invocation}
    {world : World} {bytes : Option ByteArray} {found left : Disk}
    (told : events = earlier ++ [.invoked other bytes, .lent found left])
    (last : services.running invocation world <:+ events) : other = invocation := by
  obtain ⟨before, rfl⟩ := last
  have same := (List.append_inj' told rfl).2
  injection same with run
  injection run with own
  exact own.symm

theorem not_told_of_silent {events earlier : List Event} {invocation : Invocation} {bytes : Option ByteArray}
    {found left : Disk} (silent : ∀ event ∈ events, event.run? = none) :
    events ≠ earlier ++ [.invoked invocation bytes, .lent found left] := by
  rintro rfl
  cases silent (.invoked invocation bytes) (by simp)

theorem copyPath_of_acquire {cache : Cache} {uri : Text} {world mid : World} {path : Path}
    (acquired : cache.acquire (.remote uri) world = (.ok (some path), mid)) : cache.copyPath uri = .ok path := by
  rw [Cache.acquire_remote] at acquired
  cases named : Cache.relative uri with
  | error cause =>
      rw [Cache.currentCopy_bad named] at acquired
      cases acquired
  | ok relative =>
      have course := Cache.currentCopy_course cache named world
      rw [acquired] at course
      cases course with
      | current => exact Cache.copyPath_eq named
      | renewed => exact Cache.copyPath_eq named

theorem ran_of_course {services : Services} {plan : Plan} {user : Option Text} {keepOwner : Bool}
    {invocation : Option Path → Invocation} {world : World} {ended : Except Failure (Option Outcome) × World}
    {events earlier : List Event} {ran : Invocation} {bytes : Option ByteArray} {found left : Disk}
    (course : Services.Course services plan user keepOwner invocation world ended events)
    (told : events = earlier ++ [.invoked ran bytes, .lent found left]) :
    ∃ requirement, ran = invocation requirement ∧ ∀ uri path, handedOver plan.source user keepOwner = some uri →
      services.cache.copyPath uri = .ok path → requirement = some path := by
  -- What comes before a run holds no run, so the events end with one only where the call did.
  cases course with
  | bare bare =>
      refine ⟨none, invoked_of_told told List.suffix_rfl, ?_⟩
      intro uri path given
      rw [bare] at given
      cases given
  | unacquired acquired => exact (not_told_of_silent acquired.worked.run?_eq_none told).elim
  | missing acquired => exact (not_told_of_silent acquired.worked.run?_eq_none told).elim
  | @direct source path mid events acquired own =>
      refine ⟨some path, invoked_of_told told (List.suffix_append _ _), fun uri copy given placed => ?_⟩
      have remote : source = .remote uri :=
        Option.some.inj (acquired.given.symm.trans (handedOver_eq_some_iff.mp given).1)
      subst remote
      rw [copyPath_of_acquire acquired.acquired] at placed
      exact congrArg some (Except.ok.inj placed)
  | unmade acquired => exact (not_told_of_silent acquired.worked.run?_eq_none told).elim
  | unfilled acquired made shape =>
      exact (not_told_of_silent (acquired.worked.quiet_append (by simp [Event.run?])) told).elim
  | unowned acquired isFilled handed =>
      exact (not_told_of_silent
        (acquired.worked.quiet_append (by simp [ScopedCopy.handing, Event.run?])) told).elim
  | copied acquired asked changes isFilled placed handed =>
      -- Another user gets a copy of the copy, whose path is absolute.
      refine ⟨_, invoked_of_told told (List.suffix_append _ _), fun uri path given => ?_⟩
      rcases (handedOver_eq_some_iff.mp given).2 with none | kept
      · cases asked.symm.trans none
      · cases changes.symm.trans kept

theorem ran_of_carriedOut {α : Type} {services : Services} {ready : Preparation} {user : Option Text}
    {keepOwner : Bool} {folder : Option Path} {answer : Option Outcome → Except Failure α} {world : World}
    (needs : Needs) {ran : Invocation} {found : Disk}
    (last : RanLast world (carriedOut services ready.plan user keepOwner (ready.invocation folder user) answer world).2
      ran found)
    (program : ∀ environment, needs.program = some environment → environment.isEmpty = false →
      world.isFolder environment = true → ready.program = services.layout.pipIn environment)
    (script : ∀ environment, needs.program = some environment → needs.activates = true → services.layout = .posix →
      ready.activation = some (services.layout.activationIn environment))
    (log : ∀ path, needs.log = some path → Tokens.setting "--log" path.text ∈ ready.plan.trailing)
    (resource : needs.resource = handedOver ready.plan.source user keepOwner) :
    ran.folder = folder ∧ ∀ path, needs.Relied services world path → ran.Names path := by
  obtain ⟨events, course⟩ := services.withRequirements_course ready.plan user keepOwner
    (ready.invocation folder user) world
  obtain ⟨earlier, bytes, left, told⟩ := last
  have same := course.events_eq
  simp only [carriedOut] at told
  rw [told, List.append_assoc, List.append_cancel_left_eq] at same
  obtain ⟨requirement, rfl, copied⟩ := ran_of_course course same.symm
  refine ⟨rfl, fun path relied => ?_⟩
  cases relied with
  | pip given named proper => exact Or.inl (program _ given named proper)
  | script given asked shell => exact Or.inr (Or.inl (script _ given asked shell))
  | log given =>
      refine Or.inr (Or.inr (Or.inl ?_))
      exact List.mem_append_right _ (log path given)
  | copy given placed =>
      obtain rfl := copied _ path (resource ▸ given) placed
      have spelled : requirementTokens (some path) = [("--requirement=" : Text) ++ path.text] := rfl
      refine Or.inr (Or.inr (Or.inr ?_))
      simp [Preparation.invocation, invocationOf, Plan.arguments, spelled]

theorem kept_of_named {services : Services} {world : World} {needs : Needs} {folder : Option Path} {ran : Invocation}
    (found : Disk) (started : ran.folder = folder)
    (named : ∀ path, needs.Relied services world path → ran.Names path) :
    needs.Kept services world folder ran found where
  started := started
  named := named
  coherent := by
    rintro there - (rfl | absolute) path relied
    · rfl
    · exact Path.find_absolute (absolute path relied)
  only := by
    intro there _ linkFree plain coherent
    by_cases own : there = world.host.folder
    · exact Or.inl own
    · refine Or.inr fun path relied => ?_
      obtain ⟨inside, place, leads⟩ := plain path relied
      exact ((Path.find_elsewhere_iff linkFree inside leads).mp (coherent path relied)).resolve_right own

theorem ranLast_run (services : Services) (invocation : Invocation) (world : World) :
    RanLast world (services.run invocation world).2 invocation world.disk :=
  ⟨[], _, _, by rw [Services.run_events, Services.running, List.append_nil]⟩

theorem not_ranLast_self {world : World} {ran : Invocation} {found : Disk} : ¬RanLast world world ran found := by
  rintro ⟨earlier, bytes, left, told⟩
  simp at told

section

variable {services : Services} {world : World} {ran : Invocation} {found : Disk}

theorem install_kept {request : InstallRequest} (last : RanLast world (install services request world).2 ran found) :
    request.needs.Kept services world request.folder ran found := by
  rw [install_apply] at last
  cases prepared : prepareInstall services request world with
  | error failure =>
      rw [prepared] at last
      exact (not_ranLast_self last).elim
  | ok ready =>
      rw [prepared] at last
      obtain ⟨located, activated, planned⟩ := prepared_install services world prepared
      have kept := ran_of_carriedOut request.needs last
        (fun _ given named folder => pipIn_of_located located given named folder)
        (fun _ given asked shell => script_of_activated activated given asked shell)
        (fun path given => InstallRequest.log_of_plan planned given)
        (by rw [InstallRequest.source_of_plan planned]; rfl)
      exact kept_of_named found kept.1 kept.2

theorem uninstall_kept {request : UninstallRequest}
    (last : RanLast world (uninstall services request world).2 ran found) :
    request.needs.Kept services world request.folder ran found := by
  rw [uninstall_apply] at last
  cases prepared : prepareUninstall services request world with
  | error failure =>
      rw [prepared] at last
      exact (not_ranLast_self last).elim
  | ok ready =>
      rw [prepared] at last
      obtain ⟨located, planned⟩ := prepared_uninstall services world prepared
      have kept := ran_of_carriedOut request.needs last
        (fun _ given named folder => pipIn_of_located located given named folder)
        (fun _ _ asked _ => nomatch asked)
        (fun path given => UninstallRequest.log_of_plan planned given)
        (by rw [UninstallRequest.source_of_plan planned]; rfl)
      exact kept_of_named found kept.1 kept.2

theorem listing_kept {context : Context} (last : RanLast world (listing services context world).2 ran found) :
    context.needs.Kept services world context.folder ran found := by
  rw [listing_apply] at last
  cases located : Locate.pip world services.layout context.program with
  | error failure =>
      rw [located] at last
      exact (not_ranLast_self last).elim
  | ok program =>
      rw [located] at last
      obtain ⟨earlier, bytes, left, told⟩ := last
      simp only [Services.run_events, List.append_assoc, List.append_cancel_left_eq] at told
      obtain rfl := invoked_of_told told List.suffix_rfl
      refine kept_of_named found rfl fun path relied => ?_
      cases relied with
      | pip given named folder => exact Or.inl (pipIn_of_located located given named folder)
      | script given asked shell => cases asked
      | log given => cases given
      | copy given placed => cases given

end

/-- Every call hands pip the paths that it relies on as they are. In the folder that pip is started in they lead
where they led if they are absolute or the folder is that of the program, and as a rule only then. -/
theorem relied_paths_by_folder (services : Services) (world : World) (ran : Invocation) (found : Disk) :
    (∀ request, RanLast world (install services request world).2 ran found →
      (InstallRequest.needs request).Kept services world request.folder ran found) ∧
    (∀ request, RanLast world (uninstall services request world).2 ran found →
      (UninstallRequest.needs request).Kept services world request.folder ran found) ∧
    (∀ context, RanLast world (freeze services context world).2 ran found →
      (Context.needs context).Kept services world context.folder ran found) ∧
    ∀ wanted context, RanLast world (list services wanted context world).2 ran found →
      (Context.needs context).Kept services world context.folder ran found := by
  refine ⟨fun request => install_kept, fun request => uninstall_kept, fun context last => ?_,
    fun wanted context last => ?_⟩
  · have same : (freeze services context world).2 = (listing services context world).2 :=
      congrArg Prod.snd (Step.bind_pure_apply Text.lines (listing services context) world)
    exact listing_kept (same ▸ last)
  · have same : (list services wanted context world).2 = (listing services context world).2 :=
      congrArg Prod.snd (Step.bind_pure_apply (fun shown => Versions.ofListing shown wanted)
        (listing services context) world)
    exact listing_kept (same ▸ last)

def twinWorld : World where
  disk := { entries := [(["venv"], .folder), (["venv", "bin"], .folder),
    (["venv", "bin", "pip"], .file { bytes := ⟨#[111]⟩ }), (["app"], .folder), (["app", "venv"], .folder),
    (["app", "venv", "bin"], .folder), (["app", "venv", "bin", "pip"], .file { bytes := ⟨#[116]⟩ })] }
  host := { folder := [] }

def twinContext : Context where
  program := some "venv"
  folder := some "app"

theorem twin_ran : RanLast twinWorld (freeze calmServices twinContext twinWorld).2
    (listingInvocation twinContext "venv/bin/pip") twinWorld.disk := by
  have located : Locate.pip twinWorld calmServices.layout twinContext.program = .ok "venv/bin/pip" :=
    ok_of_toOption (by decide +kernel)
  have same : (freeze calmServices twinContext twinWorld).2 = (listing calmServices twinContext twinWorld).2 :=
    congrArg Prod.snd (Step.bind_pure_apply Text.lines (listing calmServices twinContext) twinWorld)
  rw [same, listing_apply, located]
  exact ranLast_run calmServices _ twinWorld

theorem freeze_runs_twin :
    ∃ ran found there,
      RanLast twinWorld (freeze calmServices twinContext twinWorld).2 ran found ∧
      ran.folder = some "app" ∧ startedIn found twinWorld.host.folder ran.folder = .ok there ∧
      twinContext.needs.Relied calmServices twinWorld "venv/bin/pip" ∧ ran.command.program = "venv/bin/pip" ∧
      found.contents? twinWorld.host.folder "venv/bin/pip" = some ⟨#[111]⟩ ∧
      found.contents? there "venv/bin/pip" = some ⟨#[116]⟩ ∧
      ¬twinContext.needs.Coherent calmServices twinWorld found there := by
  have relied : twinContext.needs.Relied calmServices twinWorld "venv/bin/pip" :=
    .pip (show twinContext.needs.program = some "venv" from rfl) (by decide) (by decide +kernel)
  refine ⟨_, _, ["app"], twin_ran, rfl, ok_of_toOption (by decide +kernel), relied, rfl, by decide +kernel,
    by decide +kernel, ?_⟩
  intro coherent
  have same : twinWorld.disk.contents? ["app"] "venv/bin/pip" = twinWorld.disk.contents? [] "venv/bin/pip" := by
    simp only [contents?, entryAt, coherent _ relied]
    rfl
  exact absurd same (by decide +kernel)

theorem relied_paths_by_folder_twin :
    ∃ ran found, RanLast twinWorld (freeze calmServices twinContext twinWorld).2 ran found ∧
      twinContext.needs.Kept calmServices twinWorld (some "app") ran found :=
  ⟨_, _, twin_ran, (relied_paths_by_folder calmServices twinWorld _ _).2.2.1 twinContext twin_ran⟩

end Pip

end PipDriver
