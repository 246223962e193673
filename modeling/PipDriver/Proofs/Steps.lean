import PipDriver.World

/-!
How steps are put together: what a step does is said by its answer and the world after it.
-/

namespace PipDriver

namespace Failure

def isRefusal : Failure → Bool
  | .programMissing _ _ => true
  | .invalid _ => true
  | .logRefused _ _ => true
  | _ => false

def isStorage : Failure → Bool
  | .file _ _ => true
  | .badUri _ _ => true
  | .ownerKept _ _ _ => true
  | _ => false

def isNotStarted : Failure → Bool
  | .notStarted _ _ => true
  | _ => false

theorem not_refusal_of_storage {failure : Failure} (storage : failure.isStorage = true) :
    failure.isRefusal = false ∧ failure.isNotStarted = false := by
  cases failure <;> first | exact ⟨rfl, rfl⟩ | cases storage

theorem not_refusal_of_notStarted {failure : Failure} (started : failure.isNotStarted = true) :
    failure.isRefusal = false := by
  cases failure <;> first | rfl | cases started

theorem not_notStarted_of_refusal {failure : Failure} (refusal : failure.isRefusal = true) :
    failure.isNotStarted = false := by
  cases failure <;> first | rfl | cases refusal

end Failure

namespace Event

def fetch? : Event → Option Text
  | .fetched uri => some uri
  | _ => none

def ownerChange? : Event → Option (Path × Text × Option ByteArray)
  | .ownerChanged path user bytes => some (path, user, bytes)
  | _ => none

def run? : Event → Option Invocation
  | .invoked invocation _ => some invocation
  | _ => none

end Event

theorem ok_of_toOption {ε α : Type} {answer : Except ε α} {value : α} (given : answer.toOption = some value) :
    answer = .ok value := by
  cases answer with
  | error failure => simp [Except.toOption] at given
  | ok other => exact congrArg Except.ok (Option.some.inj given)

@[simp] theorem mapError_error {ε δ α : Type} (change : ε → δ) (failure : ε) :
    (.error failure : Except ε α).mapError change = .error (change failure) := rfl

@[simp] theorem mapError_ok {ε δ α : Type} (change : ε → δ) (value : α) :
    (.ok value : Except ε α).mapError change = .ok value := rfl

namespace World

def moved (world : World) (disk : Disk) (events : List Event) : World :=
  { world with disk, events := world.events ++ events }

section

variable (world : World) (disk other : Disk) (events more : List Event)

@[simp] theorem moved_disk : (world.moved disk events).disk = disk := rfl

@[simp] theorem moved_host : (world.moved disk events).host = world.host := rfl

@[simp] theorem moved_events : (world.moved disk events).events = world.events ++ events := rfl

@[simp] theorem moved_moved :
    (world.moved disk events).moved other more = world.moved other (events ++ more) := by
  simp [moved]

@[simp] theorem moved_self : world.moved world.disk [] = world := by
  simp [moved]

end

def fetches (world : World) : List Text := world.events.filterMap Event.fetch?

end World

namespace Step

variable {α β : Type}

theorem bind_apply (step : Step α) (next : α → Step β) (world : World) :
    (step >>= next) world = match step world with
      | (.ok value, changed) => next value changed
      | (.error failure, changed) => (.error failure, changed) := by
  change (ExceptT.bind step next) world = _
  simp only [ExceptT.bind, ExceptT.mk, bind, StateT.bind, ExceptT.bindCont]
  generalize step world = taken
  obtain ⟨answer, changed⟩ := taken
  cases answer <;> rfl

theorem bind_of_ok {step : Step α} {world changed : World} {value : α}
    (taken : step world = (.ok value, changed)) (next : α → Step β) :
    (step >>= next) world = next value changed := by
  rw [bind_apply, taken]

theorem bind_of_error {step : Step α} {world changed : World} {failure : Failure}
    (taken : step world = (.error failure, changed)) (next : α → Step β) :
    (step >>= next) world = (.error failure, changed) := by
  rw [bind_apply, taken]

theorem map_apply (change : α → β) (step : Step α) (world : World) :
    (change <$> step) world = match step world with
      | (.ok value, changed) => (.ok (change value), changed)
      | (.error failure, changed) => (.error failure, changed) := by
  rw [map_eq_pure_bind, bind_apply]
  rfl

theorem bind_pure_apply (change : α → β) (step : Step α) (world : World) :
    (step >>= fun value => pure (change value)) world = ((step world).1.map change, (step world).2) := by
  rw [bind_apply]
  obtain ⟨answer, changed⟩ := step world
  cases answer <;> rfl

@[simp] theorem pure_apply (value : α) (world : World) : (pure value : Step α) world = (.ok value, world) := rfl

@[simp] theorem throw_apply (failure : Failure) (world : World) :
    (throw failure : Step α) world = (.error failure, world) := rfl

@[simp] theorem look_apply (view : World → α) (world : World) :
    look view world = (.ok (view world), world) := rfl

@[simp] theorem check_apply (view : World → Except Failure α) (world : World) :
    check view world = (view world, world) := rfl

@[simp] theorem record_apply (event : Event) (world : World) :
    record event world = (.ok (), world.moved world.disk [event]) := rfl

theorem byOthers_apply (step : Step α) (world : World) :
    byOthers step world =
      ((step world).1, world.moved (step world).2.disk [.lent world.disk (step world).2.disk]) := rfl

theorem thenTidy_apply (step : Step α) (tidy : World → World) (world : World) :
    thenTidy step tidy world = ((step world).1, tidy (step world).2) := rfl

theorem change_apply (path : Path) (operation : Disk → Location → Except Fault Disk) (world : World) :
    change path operation world = match operation world.disk world.host.folder with
      | .ok disk => (.ok (), world.moved disk [])
      | .error fault => (.error (.file path fault), world) := by
  unfold change
  split <;> simp_all [World.moved]

end Step

end PipDriver
