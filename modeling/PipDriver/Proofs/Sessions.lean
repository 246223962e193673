import PipDriver.Host.Standard
import PipDriver.Proofs.Tidiness

/-!
Sessions of actions one after the other, each with services of its own: every action leaves the disk tidy.
-/

namespace PipDriver

open Disk AtomicFile

inductive Action
  | install (request : InstallRequest)
  | uninstall (request : UninstallRequest)
  | freeze (context : Context)
  | list (wanted : Option Text) (context : Context)
  | acquire (source : Source)
  | fetch (uri : Text)
  | write (path : Path) (bytes : ByteArray)
  | copy (source target : Path)
  /-- A copy that nothing is done with. -/
  | scopedCopy (folder : Option Path) (source : Path) (user : Text)
  | put (path : Path) (entry : Entry)
  | remove (path : Path)

namespace Action

def after (services : Services) (world : World) : Action → World
  | .install request => (Pip.install services request world).2
  | .uninstall request => (Pip.uninstall services request world).2
  | .freeze context => (Pip.freeze services context world).2
  | .list wanted context => (Pip.list services wanted context world).2
  | .acquire source => (services.cache.acquire source world).2
  | .fetch uri => (services.cache.fetch uri world).2
  | .write path bytes => (AtomicFile.write path bytes world).2
  | .copy source target => (AtomicFile.copy source target world).2
  | .scopedCopy none source user =>
    (ScopedCopy.use source user services.ownership (fun _ => pure ()) world).2
  | .scopedCopy (some folder) source user =>
    (ScopedCopy.useIn folder source user services.ownership (fun _ => pure ()) world).2
  | .put path entry => world.plant path entry
  | .remove path => world.uproot path

def changes (services : Services) (world : World) : Action → Location → Prop
  | .install request, location =>
    request.requirements.bind (services.cache.target? world) = some location
  | .uninstall request, location =>
    request.requirements.bind (services.cache.target? world) = some location
  | .acquire source, location => services.cache.target? world source = some location
  | .fetch uri, location => services.cache.target? world (.remote uri) = some location
  | .write path _, location => AtomicFile.target? world path = some location
  | .copy _ target, location => AtomicFile.target? world target = some location
  | .put _ _, _ => True
  | .remove _, _ => True
  | _, _ => False

end Action

theorem tidy_of_run {services : Services} {invocation : Invocation} {world : World} (fresh : world.events = []) :
    Tidy (fun _ => False) world (services.run invocation world).2 := by
  have tidy := tidy_of_handed (worked_nothing world none) (services.handedOn_running invocation world)
    (by rw [Services.run_events, fresh])
  exact tidy_mono tidy (by simp)

namespace Pip

theorem tidy_listing (services : Services) (context : Context) {world : World} (fresh : world.events = []) :
    Tidy (fun _ => False) world (listing services context world).2 := by
  rcases listing_cases services context world with ⟨failure, -, ended⟩ | ⟨invocation, ended⟩
  · rw [ended]
    exact tidy_refl fresh
  · rw [ended]
    exact tidy_of_run fresh

theorem tidy_carriedOut {α : Type} (services : Services) (plan : Plan) {source : Option Source}
    (user : Option Text) (keepOwner : Bool) (invocation : Option Path → Invocation)
    (answer : Option Outcome → Except Failure α) {world : World} (given : plan.source = source)
    (fresh : world.events = []) :
    Tidy (fun location => source.bind (services.cache.target? world) = some location) world
      (carriedOut services plan user keepOwner invocation answer world).2 := by
  subst given
  obtain ⟨events, course⟩ := services.withRequirements_course plan user keepOwner invocation world
  exact course.tidy fresh

end Pip

theorem ScopedCopy.tidy_useIn (folder source : Path) (user : Text) (ownership : Ownership) {world : World}
    (fresh : world.events = []) :
    Tidy (fun _ => False) world (useIn folder source user ownership (fun _ => pure ()) world).2 := by
  have none_ : ∀ location, (none : Option Location) = some location → False := by simp
  rcases useIn_cases folder source user ownership (fun _ => pure ()) world with
    ⟨fault, ended⟩ | ⟨fault, copy, place, name, made, shape, ended⟩ |
      ⟨copy, place, name, file, filled, isFilled, placed, ended⟩
  · rw [ended]
    exact tidy_refl fresh
  · rw [ended]
    refine tidy_mono (tidy_of_copy (worked_nothing world none) made shape (.kept _) (World.moved_host _ _ _)
      (Temporary.remove_filled made Temporary.emptyFile [.made copy]).symm ?_) none_
    rw [World.moved_events, fresh]
  · rw [ended, Step.thenTidy_apply, Step.bind_apply]
    cases handed : handOver ownership copy user filled with
    | mk answer owned =>
        have base := congrArg World.host (isFilled.handed handed).1
        have told := congrArg World.events (isFilled.handed handed).1
        rw [World.moved_events, fresh] at told
        have tidy : Tidy (fun _ => False) world (Temporary.remove copy owned) :=
          tidy_mono (tidy_of_copy (worked_nothing world none) isFilled.made isFilled.shape
            (isFilled.handedOn user owned) base rfl ((Services.remove_events _ _).trans told)) none_
        cases answer <;> exact tidy

theorem Action.tidy (services : Services) (action : Action) {world : World} (fresh : world.events = []) :
    Tidy (action.changes services world) world (action.after services world) := by
  cases action with
  | install request =>
      simp only [after]
      rcases Pip.install_cases services request world with
        ⟨failure, -, ended⟩ | ⟨program, activation, plan, planned, ended⟩
      · rw [ended]
        exact tidy_refl fresh
      · rw [ended]
        exact Pip.tidy_carriedOut services plan _ _ _ _ (InstallRequest.source_of_plan planned) fresh
  | uninstall request =>
      simp only [after]
      rcases Pip.uninstall_cases services request world with ⟨failure, -, ended⟩ | ⟨program, plan, planned, ended⟩
      · rw [ended]
        exact tidy_refl fresh
      · rw [ended]
        exact Pip.tidy_carriedOut services plan _ _ _ _ (UninstallRequest.source_of_plan planned) fresh
  | freeze context =>
      simp only [after, Pip.freeze_world]
      exact Pip.tidy_listing services context fresh
  | list wanted context =>
      simp only [after, Pip.list_world]
      exact Pip.tidy_listing services context fresh
  | acquire source =>
      obtain ⟨events, worked⟩ := services.cache.acquire_worked source world
      exact tidy_of_worked worked fresh
  | fetch uri =>
      obtain ⟨events, worked⟩ := services.cache.fetch_worked uri world
      exact tidy_of_worked worked fresh
  | write path bytes =>
      obtain ⟨events, worked⟩ := write_worked path bytes world
      exact tidy_of_worked worked fresh
  | copy source target =>
      obtain ⟨events, worked⟩ := copy_worked source target world
      exact tidy_of_worked worked fresh
  | scopedCopy folder source user =>
      cases folder with
      | none =>
          simp only [after, ScopedCopy.use_apply]
          exact ScopedCopy.tidy_useIn _ source user services.ownership fresh
      | some folder => exact ScopedCopy.tidy_useIn folder source user services.ownership fresh
  | put path entry => exact tidy_of_changes fresh
  | remove path => exact tidy_of_changes fresh

structure Turn where
  services : Services
  action : Action

structure Stage where
  turn : Turn
  before : World
  after : World

namespace Turn

def taken (turn : Turn) (world : World) : Stage :=
  let before := { world with events := [] }
  { turn, before, after := turn.action.after turn.services before }

def changes (turn : Turn) (world : World) : Location → Prop := turn.action.changes turn.services world

end Turn

def session (world : World) : List Turn → List Stage
  | [] => []
  | turn :: turns => turn.taken world :: session (turn.taken world).after turns

end PipDriver
