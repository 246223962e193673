import PipDriver.Proofs.Fetches
import PipDriver.Proofs.Likeness
import PipDriver.Proofs.Sessions

/-!
Those who have the disk for a while may leave a folder alone. Then nothing is written into it after a file is
acquired, by whatever is asked of pip.
-/

namespace PipDriver

open Disk AtomicFile

def Disk.Spares (home : Location) (before after : Disk) : Prop :=
  ∀ names, names ≠ [] → ∀ bytes, after.bytesAt (home ++ names) = some bytes →
    before.bytesAt (home ++ names) = some bytes

structure Respects (home base : Location) (events : List Event) : Prop where
  lent : ∀ found left, .lent found left ∈ events → Spares home found left
  copies : ∀ copy found left, .made copy ∈ events → copy.IsNamed ScopedCopy.nameStart → .lent found left ∈ events →
    ∀ location entry, found.find base copy false = .ok (.occupied location entry) → ¬Inside home location

section Sparing

variable {home base folder location : Location} {before between after first last : Disk} {events rest : List Event}
  {world mid : World} {source copy : Path} {name : Bytes} {file : File}

theorem Disk.Spares.refl (home : Location) (disk : Disk) : Spares home disk disk := fun _ _ _ held => held

theorem Disk.Spares.trans (one : Spares home before between) (other : Spares home between after) :
    Spares home before after :=
  fun names some_ bytes held => one names some_ bytes (other names some_ bytes held)

theorem Disk.spares_put (apart : ¬Inside home location) (disk : Disk) (entry : Entry) :
    Spares home disk (disk.put location entry) := by
  intro names some_ bytes held
  have other : home ++ names ≠ location := fun same => apart ⟨names, some_, same.symm⟩
  rwa [bytesAt_congr (get?_put_of_ne _ _ _ _ other)] at held

theorem Disk.spares_erase (home location : Location) (disk : Disk) : Spares home disk (disk.erase location) := by
  intro names some_ bytes held
  by_cases same : home ++ names = location
  · rw [bytesAt, same, get?_erase_self _ _ (same ▸ by simp [some_])] at held
    cases held
  · rwa [bytesAt_congr (get?_erase_of_ne _ _ _ same)] at held

theorem Temporary.spares_remove (home : Location) (path : Path) (world : World) :
    Spares home world.disk (remove path world).disk := by
  rcases remove_cases path world with ⟨same, -⟩ | ⟨location, entry, -, -, erased⟩
  · rw [same]
    exact Spares.refl home _
  · rw [erased]
    exact spares_erase home location _

theorem HandedOn.spares (handed : HandedOn first rest last)
    (lent : ∀ found left, .lent found left ∈ rest → Spares home found left) : Spares home first last :=
  handed.induct (motive := Spares home first) (Spares.refl home first) fun found left member so_far =>
    so_far.trans (lent found left member)

theorem Services.spares_run {services : Services} {invocation : Invocation}
    (respects : Respects home base (services.run invocation world).2.events) :
    Spares home world.disk (services.run invocation world).2.disk := by
  refine (services.handedOn_running invocation world).spares fun found left member => respects.lent found left ?_
  rw [run_events]
  exact List.mem_append_right _ member

theorem ScopedCopy.Filled.handed_quiet {owned : World} {user : Text} {ownership : Ownership}
    {answer : Except Failure Unit} (is : Filled mid source copy folder name file world)
    (handed : handOver ownership copy user world = (answer, owned)) :
    owned.host = mid.host ∧ owned.fetches = mid.fetches ∧ owned.events = mid.events ++
      [.made copy, .ownerChanged copy user (some file.bytes), .lent world.disk owned.disk] := by
  have stands := (is.handed handed).1
  refine ⟨by rw [stands, World.moved_host], ?_, congrArg World.events stands⟩
  rw [World.fetches, congrArg World.events stands]
  simp [World.fetches, handing, Event.fetch?]

end Sparing

section Checks

attribute [local instance] bytesEquality

variable {home base : Location} {before after : Disk} {events : List Event}

theorem Disk.inside_iff {location : Location} : Inside home location ↔ home <+: location ∧ location ≠ home := by
  constructor
  · rintro ⟨names, some_, rfl⟩
    exact ⟨List.prefix_append _ _, by simpa using some_⟩
  · rintro ⟨⟨names, rfl⟩, other⟩
    exact ⟨names, by simpa using other, rfl⟩

instance decidableInside (home location : Location) : Decidable (Inside home location) :=
  decidable_of_iff' _ Disk.inside_iff

theorem Disk.spares_iff : Spares home before after ↔ ∀ entry ∈ after.entries, Inside home entry.1 →
    (after.bytesAt entry.1).all fun bytes => before.bytesAt entry.1 = some bytes := by
  constructor
  · rintro spares entry - ⟨names, some_, same⟩
    rw [same, Option.all_eq_true]
    intro bytes held
    exact decide_eq_true (spares names some_ bytes held)
  · intro checked names some_ bytes held
    obtain ⟨file, there, -⟩ := bytesAt_eq_some_iff.mp held
    have clear := checked _ (mem_of_get? (by simp [some_]) there) ⟨names, some_, rfl⟩
    simpa [held] using clear

instance decidableSpares (home : Location) (before after : Disk) : Decidable (Spares home before after) :=
  decidable_of_iff' _ Disk.spares_iff

def respectsCheck (home base : Location) (events : List Event) : Bool :=
  events.all fun event => match event with
    | .lent found left => Spares home found left && events.all fun other => match other with
      | .made copy => match found.find base copy false with
        | .ok (.occupied location _) => !decide (Inside home location)
        | _ => true
      | _ => true
    | _ => true

theorem respects_of_check (checked : respectsCheck home base events = true) : Respects home base events := by
  have each : ∀ found left, .lent found left ∈ events → Spares home found left ∧
      ∀ copy, .made copy ∈ events → ∀ location entry, found.find base copy false = .ok (.occupied location entry) →
        ¬Inside home location := by
    intro found left member
    have clear := List.all_eq_true.mp checked _ member
    simp only [Bool.and_eq_true, decide_eq_true_eq, List.all_eq_true] at clear
    refine ⟨clear.1, fun copy made location entry lies => ?_⟩
    have apart := clear.2 _ made
    simpa [lies] using apart
  exact ⟨fun found left member => (each found left member).1,
    fun copy found left made _ member => (each found left member).2 copy made⟩

end Checks

structure Driven (services : Services) (home : Location) (world mid after : World) : Prop where
  came : mid = world ∨ ∃ source, mid = (services.cache.acquire source world).2
  host : after.host = world.host
  fetches : after.fetches = mid.fetches
  spares : Respects home world.host.folder after.events → Spares home mid.disk after.disk

namespace Services

variable {services : Services} {plan : Plan} {user : Option Text} {keepOwner : Bool}
  {invocation : Option Path → Invocation} {world : World} {ended : Except Failure (Option Outcome) × World}
  {events : List Event} {home : Location}

theorem run_fetches (services : Services) (invocation : Invocation) (world : World) :
    (services.run invocation world).2.fetches = world.fetches := by
  simp [World.fetches, run_events, running, Event.fetch?]

theorem remove_fetches (path : Path) (world : World) : (Temporary.remove path world).fetches = world.fetches := by
  simp [World.fetches]

theorem driven_refl (services : Services) (home : Location) (world : World) :
    Driven services home world world world where
  came := Or.inl rfl
  host := rfl
  fetches := rfl
  spares := fun _ => Spares.refl home _

theorem driven_run (services : Services) (invocation : Invocation) (home : Location) (world : World) :
    Driven services home world world (services.run invocation world).2 where
  came := Or.inl rfl
  host := run_host _ _ _
  fetches := run_fetches _ _ _
  spares := spares_run

/-- A copy is made beside the folder, goes through the hands of others and is removed. -/
theorem driven_of_copy {mid filled last : World} {source copy : Path} {folder : Location} {name : Bytes} {file : File}
    {rest : List Event} (came : mid = world ∨ ∃ source, mid = (services.cache.acquire source world).2)
    (host : mid.host = world.host) (isFilled : ScopedCopy.Filled mid source copy folder name file filled)
    (kept : last.host = mid.host) (quiet : last.fetches = mid.fetches)
    (told : last.events = mid.events ++ .made copy :: rest)
    (handed : HandedOn (mid.disk.put (folder ++ [name]) (.file file)) rest last.disk)
    (lent : ∃ left, .lent filled.disk left ∈ rest) :
    Driven services home world mid (Temporary.remove copy last) := by
  refine ⟨came, ?_, ?_, fun respects => ?_⟩
  · rw [Temporary.remove_host, kept, host]
  · rw [remove_fetches, quiet]
  · rw [remove_events, told, ← host] at respects
    have late : ∀ event ∈ rest, event ∈ mid.events ++ .made copy :: rest :=
      fun event member => List.mem_append_right _ (List.mem_cons_of_mem _ member)
    obtain ⟨left, lent⟩ := lent
    have put : filled.disk = mid.disk.put (folder ++ [name]) (.file file) := congrArg World.disk isFilled.stands
    have apart : ¬Inside home (folder ++ [name]) := by
      refine respects.copies copy _ left (by simp) (isFilled.made.isNamed isFilled.shape) (late _ lent) _ (.file file) ?_
      rw [put]
      exact isFilled.made.find_filled file false
    have between := handed.spares fun found left member => respects.lent found left (late _ member)
    exact ((spares_put apart _ _).trans between).trans (Temporary.spares_remove home copy last)

theorem driven_useIn (services : Services) (into source : Path) (user : Text) (home : Location) (world : World) :
    Driven services home world world
      (ScopedCopy.useIn into source user services.ownership (fun _ => pure ()) world).2 := by
  rcases ScopedCopy.useIn_cases into source user services.ownership (fun _ => pure ()) world with
    ⟨fault, ended⟩ | ⟨fault, copy, place, name, made, shape, ended⟩ |
      ⟨copy, place, name, file, filled, isFilled, placed, ended⟩
  · rw [ended]
    exact driven_refl services home world
  · rw [ended]
    exact ⟨Or.inl rfl, rfl, by simp [World.fetches, Event.fetch?], fun _ => Spares.refl home _⟩
  · rw [ended, Step.thenTidy_apply, Step.bind_apply]
    cases handed : ScopedCopy.handOver services.ownership copy user filled with
    | mk answer owned =>
        obtain ⟨kept, quiet, told⟩ := isFilled.handed_quiet handed
        have driven : Driven services home world world (Temporary.remove copy owned) :=
          driven_of_copy (Or.inl rfl) rfl isFilled kept quiet told (isFilled.handedOn user owned) ⟨owned.disk, by simp⟩
        cases answer <;> exact driven

theorem Course.driven (course : Course services plan user keepOwner invocation world ended events) :
    ∃ mid, Driven services home world mid ended.2 := by
  have after : ∀ {source answer mid before}, Acquired services plan world source answer mid before →
      mid = world ∨ ∃ source, mid = (services.cache.acquire source world).2 :=
    fun acquired => Or.inr ⟨_, (congrArg Prod.snd acquired.acquired).symm⟩
  cases course with
  | bare _ => exact ⟨world, driven_run _ _ _ _⟩
  | unacquired acquired | missing acquired | unmade acquired =>
      exact ⟨_, after acquired, acquired.worked.host_eq, rfl, fun _ => Spares.refl home _⟩
  | direct acquired own =>
      exact ⟨_, after acquired, (run_host _ _ _).trans acquired.worked.host_eq, run_fetches _ _ _, spares_run⟩
  | unfilled acquired made shape =>
      refine ⟨_, after acquired, acquired.worked.host_eq, ?_, fun _ => Spares.refl home _⟩
      simp [World.fetches, Event.fetch?]
  | @unowned _ _ copy name _ _ _ mid _ owned _ _ acquired isFilled handed =>
      obtain ⟨kept, quiet, told⟩ := isFilled.handed_quiet handed
      exact ⟨mid, driven_of_copy (after acquired) acquired.worked.host_eq isFilled kept quiet told
        (isFilled.handedOn name owned) ⟨owned.disk, by simp⟩⟩
  | @copied _ _ copy name _ _ _ mid _ owned _ acquired _ _ isFilled _ handed =>
      obtain ⟨kept, quiet, told⟩ := isFilled.handed_quiet handed
      have chain := (isFilled.handedOn name owned).append (services.handedOn_running (invocation (some copy)) owned)
      refine ⟨mid, driven_of_copy (after acquired) acquired.worked.host_eq isFilled ((run_host _ _ _).trans kept)
        ((run_fetches _ _ _).trans quiet) ?_ chain ⟨owned.disk, by simp⟩⟩
      rw [run_events, told, List.append_assoc, List.cons_append]

end Services

namespace Pip

theorem driven_listing (services : Services) (context : Context) (home : Location) (world : World) :
    Driven services home world world (listing services context world).2 := by
  rcases listing_cases services context world with ⟨failure, -, ended⟩ | ⟨invocation, ended⟩
  · rw [ended]
    exact services.driven_refl home world
  · rw [ended]
    exact services.driven_run invocation home world

theorem driven_carriedOut {α : Type} (services : Services) (plan : Plan) (user : Option Text) (keepOwner : Bool)
    (invocation : Option Path → Invocation) (answer : Option Outcome → Except Failure α) (home : Location)
    (world : World) :
    ∃ mid, Driven services home world mid (carriedOut services plan user keepOwner invocation answer world).2 := by
  obtain ⟨events, course⟩ := services.withRequirements_course plan user keepOwner invocation world
  exact course.driven

end Pip

def Action.drives : Action → Bool
  | .install _ | .uninstall _ | .freeze _ | .list _ _ | .acquire _ | .scopedCopy _ _ _ => true
  | _ => false

theorem Action.driven {action : Action} (drives : action.drives = true) (services : Services) (home : Location)
    (world : World) : ∃ mid, Driven services home world mid (action.after services world) := by
  cases action with
  | install request =>
      simp only [after]
      rcases Pip.install_cases services request world with
        ⟨failure, -, ended⟩ | ⟨program, activation, plan, -, ended⟩
      · rw [ended]
        exact ⟨world, services.driven_refl home world⟩
      · rw [ended]
        exact Pip.driven_carriedOut _ _ _ _ _ _ _ _
  | uninstall request =>
      simp only [after]
      rcases Pip.uninstall_cases services request world with ⟨failure, -, ended⟩ | ⟨program, plan, -, ended⟩
      · rw [ended]
        exact ⟨world, services.driven_refl home world⟩
      · rw [ended]
        exact Pip.driven_carriedOut _ _ _ _ _ _ _ _
  | freeze context =>
      simp only [after, Pip.freeze_world]
      exact ⟨world, Pip.driven_listing services context home world⟩
  | list wanted context =>
      simp only [after, Pip.list_world]
      exact ⟨world, Pip.driven_listing services context home world⟩
  | acquire source =>
      obtain ⟨events, worked⟩ := services.cache.acquire_worked source world
      exact ⟨_, Or.inr ⟨source, rfl⟩, worked.host_eq, rfl, fun _ => Spares.refl home _⟩
  | scopedCopy folder source user =>
      cases folder with
      | none =>
          simp only [after, ScopedCopy.use_apply]
          exact ⟨world, services.driven_useIn _ source user home world⟩
      | some folder => exact ⟨world, services.driven_useIn folder source user home world⟩
  | fetch _ | write _ _ | copy _ _ | put _ _ | remove _ => cases drives

end PipDriver
