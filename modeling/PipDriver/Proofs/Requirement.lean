import PipDriver.Proofs.Driving

/-!
The requirements file that a run is given: at the moment of the run its path names what was asked for, and
a copy for another user is in place and handed over.
-/

namespace PipDriver

open Disk AtomicFile

namespace Cache

def pathOf (cache : Cache) : Source → Except Failure Path
  | .onHost path => .ok path
  | .remote uri => cache.copyPath uri

def TellsApart (cache : Cache) (world : World) (source : Source) : Prop :=
  ∀ uri copy resource, source = .remote uri → cache.copyPath uri = .ok copy →
    cache.resourcePath uri = .ok resource → ToldApart world copy resource

def IsCurrent (cache : Cache) (disk : Disk) (base : Location) (source : Source) (path : Path) : Prop :=
  ∀ uri, source = .remote uri → ∃ resource bytes, cache.resourcePath uri = .ok resource ∧
    disk.contents? base resource = some bytes ∧ disk.contents? base path = some bytes

theorem acquire_given {cache : Cache} {source : Source} {world mid : World} {path : Path}
    (apart : cache.TellsApart world source)
    (acquired : cache.acquire source world = (.ok (some path), mid)) :
    cache.pathOf source = .ok path ∧ cache.IsCurrent mid.disk mid.host.folder source path := by
  cases source with
  | onHost other =>
      cases acquired
      exact ⟨rfl, fun _ same => nomatch same⟩
  | remote uri =>
      rw [acquire_remote] at acquired
      cases named : Cache.relative uri with
      | error cause =>
          rw [currentCopy_bad named] at acquired
          cases acquired
      | ok relative =>
          have course := currentCopy_course cache named world
          rw [acquired] at course
          have told := apart uri _ _ rfl (copyPath_eq named) (resourcePath_eq named)
          have holds : path = cache.folder.join relative ∧ ∃ bytes,
              mid.contents? (cache.root.join relative) = some bytes ∧ mid.contents? path = some bytes := by
            cases course with
            | @current bytes old upstream cached same =>
                obtain rfl := told old bytes cached upstream same
                exact ⟨rfl, bytes, upstream, cached⟩
            | renewed _ _ _ _ _ copied beside => exact ⟨rfl, _, beside, copied⟩
          obtain ⟨rfl, bytes, upstream, copied⟩ := holds
          refine ⟨copyPath_eq named, ?_⟩
          rintro other ⟨⟩
          exact ⟨_, bytes, resourcePath_eq named, upstream, copied⟩

theorem IsCurrent.grow {cache : Cache} {disk after : Disk} {base : Location} {source : Source} {path copy : Path}
    {bytes : ByteArray} (current : cache.IsCurrent disk base source path)
    (kept : ∀ location entry, disk.get? location = some entry → after.get? location = some entry)
    (same : after.contents? base path = some bytes) (copied : after.contents? base copy = some bytes) :
    cache.IsCurrent after base source copy := by
  intro uri remote
  obtain ⟨resource, held, named, upstream, given⟩ := current uri remote
  have grown := contents?_grow kept given
  rw [same, Option.some.injEq] at grown
  subst grown
  exact ⟨resource, bytes, named, contents?_grow kept upstream, copied⟩

end Cache

/-- Between two worlds, what is on the disk stayed as it was where an owner was changed right before a run. -/
def OwnerKeepsDisk (before after : World) : Prop :=
  ∀ earlier path user bytes found left invocation requirements later,
    after.events = before.events ++ (earlier ++
      [.ownerChanged path user bytes, .lent found left, .invoked invocation requirements] ++ later) → left = found

/-- The file that a run is to read: with the disk as the run finds it, and with what was asked of others since
the request was made. -/
structure RightFile (cache : Cache) (source : Source) (user : Option Text) (keepOwner : Bool) (world : World)
    (earlier : List Event) (found : Disk) (path : Path) : Prop where
  current : cache.IsCurrent found world.host.folder source path
  direct : user = none ∨ keepOwner = true →
    cache.pathOf source = .ok path ∧ earlier.filterMap Event.ownerChange? = []
  copied : ∀ name, user = some name → keepOwner = false →
    (∃ number, path = Temporary.pathIn world world.temporaryFolder
      (ScopedCopy.nameStart ++ serial number ++ ScopedCopy.nameEnding)) ∧
    world.disk.holds world.host.folder path = false ∧
    ∃ acquired bytes, cache.pathOf source = .ok acquired ∧
      found.contents? world.host.folder acquired = some bytes ∧
      found.contents? world.host.folder path = some bytes ∧
      earlier.filterMap Event.ownerChange? = [(path, name, some bytes)]

/-- At the same moment of a run one path at most is right. -/
theorem RightFile.unique {cache : Cache} {source : Source} {user : Option Text} {keepOwner : Bool} {world : World}
    {earlier : List Event} {found : Disk} {path other : Path}
    (right : RightFile cache source user keepOwner world earlier found path)
    (also : RightFile cache source user keepOwner world earlier found other) : path = other := by
  by_cases direct : user = none ∨ keepOwner = true
  · have first := (right.direct direct).1
    rw [(also.direct direct).1, Except.ok.injEq] at first
    exact first.symm
  · rw [not_or, Bool.not_eq_true] at direct
    obtain ⟨name, asked⟩ := Option.ne_none_iff_exists'.mp direct.1
    obtain ⟨-, -, _, _, -, -, -, first⟩ := right.copied name asked direct.2
    obtain ⟨-, -, _, _, -, -, -, second⟩ := also.copied name asked direct.2
    rw [first] at second
    exact (Prod.mk.inj (List.cons.inj second).1).1

theorem RightFile.names_iff {cache : Cache} {source : Source} {user : Option Text} {keepOwner : Bool} {world : World}
    {earlier : List Event} {found : Disk} {path : Path}
    (right : RightFile cache source user keepOwner world earlier found path) :
    RightFile cache source user keepOwner world earlier found (Path.mk path.text) ↔ path.IsText := by
  rw [← Path.mk_text_iff]
  constructor
  · exact fun named => named.unique right
  · intro same
    rwa [same]

namespace Services

theorem Acquired.rightFile_of_copied {services : Services} {plan : Plan} {user : Option Text} {keepOwner : Bool}
    {world mid filled owned : World} {source : Source} {path copy : Path} {name : Text} {fresh : Bytes}
    {folder : Location} {file : File} {events : List Event}
    (acquired : Acquired services plan world source (.ok (some path)) mid events)
    (asked : user = some name) (changes : keepOwner = false)
    (isFilled : ScopedCopy.Filled mid path copy folder fresh file filled)
    (placed : copy = Temporary.pathIn mid mid.temporaryFolder fresh)
    (unchanged : owned.disk = filled.disk) (apart : services.cache.TellsApart world source) :
    RightFile services.cache source user keepOwner world
      (events ++ ScopedCopy.handing copy name file filled owned) owned.disk copy := by
  have worked := acquired.worked
  obtain ⟨named, current⟩ := Cache.acquire_given apart acquired.acquired
  have base : filled.host.folder = world.host.folder := by
    rw [isFilled.stands, World.moved_host, worked.host_eq]
  have same := isFilled.same
  have copied := isFilled.contents?
  rw [worked.host_eq] at current
  rw [base] at same copied
  rw [unchanged]
  refine ⟨current.grow isFilled.kept same copied, ?_, ?_⟩
  · rintro (own | own)
    · simp [asked] at own
    · simp [changes] at own
  · intro other isUser _
    rw [asked, Option.some.injEq] at isUser
    subst isUser
    obtain ⟨number, rfl⟩ := isFilled.shape
    refine ⟨⟨number, ?_⟩, ?_, path, file.bytes, named, same, copied, ?_⟩
    · rw [placed, Temporary.pathIn_of_host_eq worked.host_eq]
    · have absent := isFilled.made.not_holds_before worked.occupied
      rwa [worked.host_eq] at absent
    · rw [List.filterMap_append, worked.ownerChanges_eq]
      rfl

theorem Acquired.rightFile_of_direct {services : Services} {plan : Plan} {user : Option Text} {keepOwner : Bool}
    {world mid : World} {source : Source} {path : Path} {events : List Event}
    (acquired : Acquired services plan world source (.ok (some path)) mid events)
    (own : user = none ∨ keepOwner = true) (apart : services.cache.TellsApart world source) :
    RightFile services.cache source user keepOwner world events mid.disk path := by
  obtain ⟨named, current⟩ := Cache.acquire_given apart acquired.acquired
  rw [acquired.worked.host_eq] at current
  refine ⟨current, fun _ => ⟨named, acquired.worked.ownerChanges_eq⟩, ?_⟩
  intro name isUser changes
  rcases own with own | own
  · simp [own] at isUser
  · simp [own] at changes

theorem Course.rightFile {services : Services} {plan : Plan} {user : Option Text} {keepOwner : Bool}
    {invocation : Option Path → Invocation} {world : World}
    {ended : Except Failure (Option Outcome) × World} {events : List Event}
    (course : Course services plan user keepOwner invocation world ended events) {source : Source}
    (given : plan.source = some source) (keeps : OwnerKeepsDisk world ended.2)
    (apart : services.cache.TellsApart world source) :
    (∀ event ∈ events, event.run? = none) ∨
    ∃ earlier bytes path found left,
      events = earlier ++ [.invoked (invocation (some path)) bytes, .lent found left] ∧
      (∀ event ∈ earlier, event.run? = none) ∧
      RightFile services.cache source user keepOwner world earlier found path := by
  have same : ∀ {other answer mid before}, Acquired services plan world other answer mid before →
      other = source := fun acquired => Option.some.inj (acquired.given.symm.trans given)
  have told := course.events_eq
  cases course with
  | bare none => simp [given] at none
  | unacquired acquired => exact Or.inl acquired.worked.run?_eq_none
  | missing acquired => exact Or.inl acquired.worked.run?_eq_none
  | direct acquired own =>
      obtain rfl := same acquired
      exact Or.inr ⟨_, _, _, _, _, rfl, acquired.worked.run?_eq_none, acquired.rightFile_of_direct own apart⟩
  | unmade acquired => exact Or.inl acquired.worked.run?_eq_none
  | unfilled acquired made shape => exact Or.inl (acquired.worked.quiet_append (by simp [Event.run?]))
  | unowned acquired isFilled handed =>
      exact Or.inl (acquired.worked.quiet_append (by simp [ScopedCopy.handing, Event.run?]))
  | @copied _ path copy name _ _ file _ filled owned events acquired asked changes isFilled placed handed =>
      obtain rfl := same acquired
      have unchanged : owned.disk = filled.disk := by
        refine keeps (events ++ [.made copy]) copy name (some file.bytes) filled.disk owned.disk (invocation (some copy))
          ((requirementOf (invocation (some copy)).command).bind owned.read?)
          [.lent owned.disk (services.run (invocation (some copy)) owned).2.disk] ?_
        simpa [ScopedCopy.handing, running] using told
      exact Or.inr ⟨_, _, _, _, _, rfl, acquired.worked.quiet_append (by simp [ScopedCopy.handing, Event.run?]),
        acquired.rightFile_of_copied asked changes isFilled placed unchanged apart⟩

end Services

/-- Between two worlds there was no run, or one, to which the arguments of a plan spell the path of the right file, and
name that file just where the path is text. -/
def GivesRightFile (cache : Cache) (source : Source) (user : Option Text) (keepOwner : Bool)
    (plan : Except Failure Plan) (before after : World) : Prop :=
  ∃ events, after.events = before.events ++ events ∧
    ((∀ event ∈ events, event.run? = none) ∨
    ∃ accepted earlier invocation bytes path found left,
      plan = .ok accepted ∧
      events = earlier ++ [.invoked invocation bytes, .lent found left] ∧
      (∀ event ∈ earlier, event.run? = none) ∧
      invocation.command.arguments =
        accepted.leading ++ (("--requirement=" : Text) ++ path.text) :: accepted.trailing ∧
      RightFile cache source user keepOwner before earlier found path ∧
      (RightFile cache source user keepOwner before earlier found (Path.mk path.text) ↔ path.IsText))

theorem givesRightFile_refl {cache : Cache} {source : Source} {user : Option Text} {keepOwner : Bool}
    {plan : Except Failure Plan} (world : World) :
    GivesRightFile cache source user keepOwner plan world world :=
  ⟨[], by simp, Or.inl (by simp)⟩

theorem Pip.givesRightFile_carriedOut {α : Type} {services : Services} {user : Option Text} {keepOwner : Bool}
    {plan : Except Failure Plan} {accepted : Plan} {answer : Option Outcome → Except Failure α} {source : Source}
    {world : World} (program : Path) (activation folder : Option Path) (planned : plan = .ok accepted)
    (given : accepted.source = some source)
    (keeps : OwnerKeepsDisk world (carriedOut services accepted user keepOwner
      (invocationOf program activation accepted folder user) answer world).2)
    (apart : services.cache.TellsApart world source) :
    GivesRightFile services.cache source user keepOwner plan world
      (carriedOut services accepted user keepOwner (invocationOf program activation accepted folder user) answer
        world).2 := by
  obtain ⟨events, course⟩ := services.withRequirements_course accepted user keepOwner
    (invocationOf program activation accepted folder user) world
  rcases course.rightFile given keeps apart with quiet | ⟨earlier, bytes, path, found, left, ends, quiet, right⟩
  · exact ⟨events, course.events_eq, Or.inl quiet⟩
  · refine ⟨events, course.events_eq, Or.inr ⟨accepted, earlier, _, bytes, path, found, left, planned, ends,
      quiet, ?_, right, right.names_iff⟩⟩
    have spelled : requirementTokens (some path) = [("--requirement=" : Text) ++ path.text] := rfl
    simp [invocationOf, Plan.arguments, spelled]

/-- Whenever pip is run for a request with a requirements source, its arguments name the right file, if the path of
that file is text. -/
theorem requirement_names_right_file (services : Services) (world : World) (source : Source)
    (apart : services.cache.TellsApart world source) :
    (∀ request : InstallRequest, request.requirements = some source →
      OwnerKeepsDisk world (Pip.install services request world).2 →
      GivesRightFile services.cache source request.user request.keepOwner (request.plan world) world
        (Pip.install services request world).2) ∧
    (∀ request : UninstallRequest, request.requirements = some source →
      OwnerKeepsDisk world (Pip.uninstall services request world).2 →
      GivesRightFile services.cache source request.user request.keepOwner (request.plan world) world
        (Pip.uninstall services request world).2) := by
  constructor
  · intro request given keeps
    rcases Pip.install_cases services request world with
      ⟨failure, -, ended⟩ | ⟨program, activation, plan, planned, ended⟩
    · rw [ended]
      exact givesRightFile_refl world
    · rw [ended] at keeps ⊢
      exact Pip.givesRightFile_carriedOut program activation request.folder planned
        ((InstallRequest.source_of_plan planned).trans given) keeps apart
  · intro request given keeps
    rcases Pip.uninstall_cases services request world with ⟨failure, -, ended⟩ | ⟨program, plan, planned, ended⟩
    · rw [ended]
      exact givesRightFile_refl world
    · rw [ended] at keeps ⊢
      exact Pip.givesRightFile_carriedOut program none request.folder planned
        ((UninstallRequest.source_of_plan planned).trans given) keeps apart

def calmServices : Services where
  runner := fun _ => pure { code := 0, output := [], diagnostics := [] }
  ownership := fun _ _ => pure ()
  cache := { root := "srv", folder := "kept" }

def sharedWorld : World where
  disk := { entries := [(["srv"], .folder), (["srv", "a"], .file { bytes := ⟨#[120]⟩ }), (["tmp"], .folder)] }
  host := { folder := [] }

def sharedRequest : InstallRequest where
  requirements := some (.remote "salt://a")
  program := some "pip"
  user := some "guest"

def Event.keepsDisk : Event → Bool
  | .lent found left => left = found
  | _ => true

theorem ownerKeepsDisk_of_all {before after : World} (kept : after.events.all Event.keepsDisk = true) :
    OwnerKeepsDisk before after := by
  intro earlier path user bytes found left invocation requirements later told
  have among : .lent found left ∈ after.events := by simp [told]
  exact of_decide_eq_true (List.all_eq_true.mp kept _ among)

theorem requirement_names_right_file_shared :
    (Pip.install calmServices sharedRequest sharedWorld).2.events.filterMap Event.run? ≠ [] ∧
    GivesRightFile calmServices.cache (.remote "salt://a") (some "guest") false (sharedRequest.plan sharedWorld)
      sharedWorld (Pip.install calmServices sharedRequest sharedWorld).2 := by
  have uncached : sharedWorld.contents? "kept/a" = none := by decide +kernel
  have apart : calmServices.cache.TellsApart sharedWorld (.remote "salt://a") := by
    rintro _ copy resource ⟨⟩ placed _ old bytes cached
    have same : calmServices.cache.copyPath "salt://a" = .ok "kept/a" := ok_of_toOption (by decide +kernel)
    rw [same, Except.ok.injEq] at placed
    rw [← placed, uncached] at cached
    cases cached
  have keeps : OwnerKeepsDisk sharedWorld (Pip.install calmServices sharedRequest sharedWorld).2 :=
    ownerKeepsDisk_of_all (by decide +kernel)
  exact ⟨by decide +kernel,
    (requirement_names_right_file calmServices sharedWorld _ apart).1 sharedRequest rfl keeps⟩

def rawPath : Path := ⟨Text.encoded "/srv/" ++ [0xFF] ++ Text.encoded ".txt"⟩

def rawWorld : World where
  disk := { entries := [(["srv"], .folder), (["srv", [0xFF] ++ Text.encoded ".txt"], .file { bytes := ⟨#[120]⟩ })] }
  host := { folder := [] }

/-- A file with a byte in its name that is no text: the path that pip is given leads nowhere. -/
theorem requirement_names_other_file :
    let ended := Pip.install calmServices { requirements := some (.onHost rawPath), program := some "pip" } rawWorld
    ended.2.events.filterMap Event.run? =
      [{ command := { program := "pip", arguments := ["install", "--requirement=/srv/\ufffd.txt"] } }] ∧
    ended.2.read? rawPath = some ⟨#[120]⟩ ∧ ended.2.read? "/srv/\ufffd.txt" = none := by
  decide +kernel

end PipDriver
