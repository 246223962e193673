import Mathlib.Data.List.Forall2
import PipDriver.Proofs.Refusals

/-!
Two calls side by side that differ only in what pip is run with. Up to the run they are one; from there on they
stay alike as long as the runner replies the same to both.
-/

namespace PipDriver

namespace Temporary

theorem remove_disk_eq (path : Path) (world : World) : (remove path world).disk =
    match world.disk.removeFile world.host.folder path with
    | .ok disk => disk
    | .error _ => world.disk := by
  unfold remove
  cases world.disk.removeFile world.host.folder path <;> rfl

theorem remove_host (path : Path) (world : World) : (remove path world).host = world.host := by
  unfold remove
  split <;> rfl

end Temporary

inductive Event.Alike (related : Invocation → Invocation → Prop) : Event → Event → Prop
  | quiet {event : Event} (silent : event.run? = none) : Alike related event event
  | invoked {first second : Invocation} (bytes : Option ByteArray) (same : related first second) :
      Alike related (.invoked first bytes) (.invoked second bytes)

structure World.Alike (related : Invocation → Invocation → Prop) (before first second : World) : Prop where
  disk : first.disk = second.disk
  host : first.host = second.host
  told : ∃ events others, first.events = before.events ++ events ∧ second.events = before.events ++ others ∧
    List.Forall₂ (Event.Alike related) events others

/-- Two ends of what began in one world, with one answer. -/
def EndsAlike {α : Type} (related : Invocation → Invocation → Prop) (before : World)
    (first second : Except Failure α × World) : Prop :=
  first.1 = second.1 ∧ before.Alike related first.2 second.2

/-- The runner makes no difference between related invocations, right after they were taken down. -/
def Runner.RepliesAlike (runner : Runner) (related : Invocation → Invocation → Prop) : Prop :=
  ∀ first second, related first second → ∀ (world : World) (bytes : Option ByteArray),
    (runner first (world.moved world.disk [.invoked first bytes])).1 =
      (runner second (world.moved world.disk [.invoked second bytes])).1 ∧
    (runner first (world.moved world.disk [.invoked first bytes])).2.disk =
      (runner second (world.moved world.disk [.invoked second bytes])).2.disk

namespace NeverRun

theorem refl (world : World) : NeverRun world world := ⟨[], by simp, by simp⟩

theorem trans {before mid after : World} (first : NeverRun before mid) (second : NeverRun mid after) :
    NeverRun before after := by
  obtain ⟨events, told, silent⟩ := first
  obtain ⟨others, later, still⟩ := second
  refine ⟨events ++ others, by rw [later, told, List.append_assoc], ?_⟩
  intro event member
  rcases List.mem_append.mp member with early | late
  · exact silent event early
  · exact still event late

theorem moved (world : World) (disk : Disk) {events : List Event} (silent : ∀ event ∈ events, event.run? = none) :
    NeverRun world (world.moved disk events) :=
  ⟨events, rfl, silent⟩

theorem bind {α β : Type} {step : Step α} {next : α → Step β} {world : World} (first : NeverRun world (step world).2)
    (later : ∀ value changed, NeverRun changed (next value changed).2) :
    NeverRun world ((step >>= next) world).2 := by
  rw [Step.bind_apply]
  cases taken : step world with
  | mk answer changed =>
      rw [taken] at first
      cases answer with
      | error failure => exact first
      | ok value => exact first.trans (later value changed)

theorem change (path : Path) (operation : Disk → Location → Except Fault Disk) (world : World) :
    NeverRun world (Step.change path operation world).2 := by
  rw [Step.change_apply]
  cases operation world.disk world.host.folder with
  | ok disk => exact moved world disk (by simp)
  | error fault => exact refl world

end NeverRun

section

variable {related : Invocation → Invocation → Prop} {α β : Type}

theorem Event.forall₂_alike {events : List Event} (silent : ∀ event ∈ events, event.run? = none) :
    List.Forall₂ (Event.Alike related) events events := by
  induction events with
  | nil => exact .nil
  | cons event rest ih =>
      exact .cons (.quiet (silent event (by simp))) (ih fun other member => silent other (by simp [member]))

theorem World.Alike.refl (world : World) : world.Alike related world world :=
  ⟨rfl, rfl, [], [], by simp, by simp, .nil⟩

namespace EndsAlike

theorem rfl_of_neverRun {before : World} {ended : Except Failure α × World} (never : NeverRun before ended.2) :
    EndsAlike related before ended ended := by
  obtain ⟨events, told, silent⟩ := never
  exact ⟨rfl, rfl, rfl, events, events, told, told, Event.forall₂_alike silent⟩

theorem later {before mid : World} {first second : Except Failure α × World} (never : NeverRun before mid)
    (alike : EndsAlike related mid first second) : EndsAlike related before first second := by
  obtain ⟨events, told, silent⟩ := never
  obtain ⟨answer, disk, host, own, others, firstTold, secondTold, pairs⟩ := alike
  refine ⟨answer, disk, host, events ++ own, events ++ others, ?_, ?_, ?_⟩
  · rw [firstTold, told, List.append_assoc]
  · rw [secondTold, told, List.append_assoc]
  · exact List.rel_append (Event.forall₂_alike silent) pairs

theorem map {before : World} {first second : Except Failure α × World}
    (alike : EndsAlike related before first second) (change : α → β) :
    EndsAlike related before (first.1.map change, first.2) (second.1.map change, second.2) :=
  ⟨congrArg (Except.map change) alike.1, alike.2⟩

theorem answered {before : World} {first second : Except Failure α × World}
    (alike : EndsAlike related before first second) (answer : α → Except Failure β) :
    EndsAlike related before (first.1.bind answer, first.2) (second.1.bind answer, second.2) :=
  ⟨congrArg (Except.bind · answer) alike.1, alike.2⟩

theorem removed {before : World} {first second : Except Failure α × World}
    (alike : EndsAlike related before first second) (path : Path) :
    EndsAlike related before (first.1, Temporary.remove path first.2) (second.1, Temporary.remove path second.2) := by
  obtain ⟨answer, disk, host, told⟩ := alike
  refine ⟨answer, ?_, ?_, by simpa using told⟩
  · simp only [Temporary.remove_disk_eq, disk, host]
  · simp only [Temporary.remove_host, host]

/-- A step that both take leads to one world, in which they go on alike. -/
theorem bind {step : Step α} {first second : α → Step β} {world : World}
    (never : NeverRun world (step world).2)
    (next : ∀ value changed, EndsAlike related changed (first value changed) (second value changed)) :
    EndsAlike related world ((step >>= first) world) ((step >>= second) world) := by
  rw [Step.bind_apply, Step.bind_apply]
  cases taken : step world with
  | mk answer changed =>
      rw [taken] at never
      cases answer with
      | error failure => exact rfl_of_neverRun never
      | ok value => exact later never (next value changed)

end EndsAlike

theorem Temporary.make_neverRun (reported folder other : Path) (start ending : Text) (world : World) :
    NeverRun world (make reported folder other start ending world).2 := by
  unfold make
  split
  · exact .refl world
  · dsimp only
    split
    · exact .moved world _ (by simp [Event.run?])
    · exact .refl world

theorem ScopedCopy.fill_neverRun (source copy : Path) (world : World) :
    NeverRun world (fill source copy world).2 := by
  refine .bind (.refl world) fun entry mid => ?_
  cases entry with
  | file file => exact .change _ _ mid
  | _ => exact .refl mid

theorem ScopedCopy.handOver_neverRun (ownership : Ownership) (path : Path) (user : Text) (world : World) :
    NeverRun world (handOver ownership path user world).2 := by
  rw [handOver_apply]
  exact .moved world _ (by simp [Event.run?])

theorem Cache.acquire_neverRun (cache : Cache) (source : Source) (world : World) :
    NeverRun world (cache.acquire source world).2 := by
  obtain ⟨events, worked⟩ := cache.acquire_worked source world
  exact ⟨events, worked.events_eq, worked.run?_eq_none⟩

namespace EndsAlike

theorem useIn {first second : Path → Step α} (folder source : Path) (user : Text) (ownership : Ownership)
    (used : ∀ copy world, EndsAlike related world (first copy world) (second copy world)) (world : World) :
    EndsAlike related world (ScopedCopy.useIn folder source user ownership first world)
      (ScopedCopy.useIn folder source user ownership second world) := by
  unfold ScopedCopy.useIn
  -- Both make, fill and hand over the same copy; only its use is different.
  refine bind (Temporary.make_neverRun _ _ _ _ _ world) fun copy made => ?_
  rw [Step.thenTidy_apply, Step.thenTidy_apply]
  refine removed (bind (ScopedCopy.fill_neverRun _ _ made) fun _ filled => ?_) copy
  exact bind (ScopedCopy.handOver_neverRun _ _ _ filled) fun _ owned => used copy owned

theorem run (services : Services) {first second : Invocation}
    (replies : services.runner.RepliesAlike related) (same : related first second)
    (reads : Services.requirementOf first.command = Services.requirementOf second.command) (world : World) :
    EndsAlike related world (services.run first world) (services.run second world) := by
  rw [Services.run_apply, Services.run_apply, reads]
  obtain ⟨answer, disk⟩ := replies first second same world ((Services.requirementOf second.command).bind world.read?)
  refine ⟨answer, disk, rfl, _, _, rfl, rfl, ?_⟩
  simp only [disk]
  exact .cons (.invoked _ same) (.cons (.quiet rfl) .nil)

theorem withRequirements (services : Services) {plan other : Plan} (shared : plan.source = other.source)
    (user : Option Text) (keepOwner : Bool) {first second : Option Path → Step Outcome}
    (used : ∀ requirement world, EndsAlike related world (first requirement world) (second requirement world))
    (world : World) :
    EndsAlike related world (services.withRequirements plan user keepOwner first world)
      (services.withRequirements other user keepOwner second world) := by
  have wrapped (requirement : Option Path) (world : World) : EndsAlike related world
      ((do return some (← first requirement) : Step (Option Outcome)) world)
      ((do return some (← second requirement) : Step (Option Outcome)) world) := by
    rw [Step.bind_pure_apply, Step.bind_pure_apply]
    exact (used requirement world).map some
  unfold Services.withRequirements
  rw [shared]
  cases other.source with
  | none => exact wrapped none world
  | some source =>
      refine bind (services.cache.acquire_neverRun source world) fun found mid => ?_
      cases found with
      | none => exact rfl_of_neverRun (.refl mid)
      | some path =>
          cases user with
          | none => exact wrapped (some path) mid
          | some name =>
              cases keepOwner with
              | true => exact wrapped (some path) mid
              | false =>
                  simp only [Bool.false_eq_true, if_false, Step.bind_pure_apply]
                  refine (bind (.refl mid) fun folder _ => ?_).map some
                  exact useIn folder path name services.ownership (fun copy => used (some copy)) _

/-- Related runs with the requirements file of one source. -/
theorem driven {services : Services} (replies : services.runner.RepliesAlike related) {plan other : Plan}
    (shared : plan.source = other.source) (user : Option Text) (keepOwner : Bool)
    {invocation twin : Option Path → Invocation}
    (same : ∀ requirement, related (invocation requirement) (twin requirement))
    (reads : ∀ requirement, Services.requirementOf (invocation requirement).command =
      Services.requirementOf (twin requirement).command) (world : World) :
    EndsAlike related world
      (services.withRequirements plan user keepOwner (fun path => services.run (invocation path)) world)
      (services.withRequirements other user keepOwner (fun path => services.run (twin path)) world) :=
  withRequirements services shared user keepOwner
    (fun requirement => run services replies (same requirement) (reads requirement)) world

end EndsAlike

end

end PipDriver
