import PipDriver.Proofs.SharedCacheInvariant

/-!
What a strand does in company: whatever the others have done by the time of its turn, it does only what it may.
A strand that is made of others keeps to that if they do.
-/

namespace PipDriver.Company

open Disk

section Definitions

variable (company : Company)

structure Standing (world : World) : Prop where
  hosted : ∃ number, world.host = { company.start.host with firstSerial := number }
  sound : company.Sound world.disk
  onward : company.Onward company.start.disk world.disk

structure Drawn (world : World) : Prop where
  few : world.host.firstSerial < 1000000
  fresh : world.disk.isFresh (temporaryName world.host.firstSerial) = true
  apart : ¬company.Wants (temporaryName world.host.firstSerial)

instance decidableWants (name : Bytes) : Decidable (company.Wants name) :=
  inferInstanceAs (Decidable (name ∈ company.wanted))

instance decidableDrawn (world : World) : Decidable (company.Drawn world) :=
  decidable_of_iff (world.host.firstSerial < 1000000 ∧
      world.disk.isFresh (temporaryName world.host.firstSerial) = true ∧
      ¬company.Wants (temporaryName world.host.firstSerial))
    ⟨fun ⟨few, fresh, apart⟩ => ⟨few, fresh, apart⟩, fun drawn => ⟨drawn.few, drawn.fresh, drawn.apart⟩⟩

structure Meets (held : Option Location) (world met : World) : Prop where
  standing : company.Standing met
  onward : company.Onward world.disk met.disk
  held : ∀ location, held = some location → met.disk.get? location = world.disk.get? location

variable {α : Type}

def Keeps (ends : Option Location → World → Except Failure α → Prop) :
    Option Location → World → Strand α → Prop
  | held, world, .ended answer => ends held world answer
  | held, world, .going change onward => ∀ met, company.Meets held world met → (held = none → company.Drawn met) →
    ∃ taken, (change met).host = met.host ∧ company.Allows held taken met.disk (change met).disk ∧
      Keeps ends taken (change met) (onward met)

end Definitions

variable {company : Company} {α β : Type} {held taken : Option Location} {world met after : World}

section Standings

theorem Standing.base_eq (standing : company.Standing world) : world.host.folder = company.base := by
  obtain ⟨number, same⟩ := standing.hosted
  rw [same]
  rfl

theorem Standing.linkFree (standing : company.Standing world) (settled : company.Settled) : world.disk.LinkFree :=
  standing.sound.linkFree settled

theorem standing_start (company : Company) : company.Standing company.start where
  hosted := ⟨company.start.host.firstSerial, rfl⟩
  sound := fun _ => .kept rfl
  onward := .refl company _

theorem Standing.next (standing : company.Standing met) (host : after.host = met.host)
    (allows : company.Allows held taken met.disk after.disk) : company.Standing after where
  hosted := host ▸ standing.hosted
  sound := allows.sound
  onward := standing.onward.trans allows.onward

theorem Standing.meets_self (standing : company.Standing world) (held : Option Location) :
    company.Meets held world world := ⟨standing, .refl company _, fun _ _ => rfl⟩

theorem Meets.trans {between later : World} (first : company.Meets held world between)
    (second : company.Meets held between later) : company.Meets held world later where
  standing := second.standing
  onward := first.onward.trans second.onward
  held := fun location is => (second.held location is).trans (first.held location is)

theorem Standing.contents?_eq (standing : company.Standing world) (path : Path) :
    world.contents? path = world.disk.contents? company.base path := by
  rw [World.contents?, standing.base_eq]

end Standings

variable {ends : Option Location → World → Except Failure β → Prop}

theorem keeps_pure {value : β} (done : ends held world (.ok value)) :
    company.Keeps ends held world (pure value) := done

theorem keeps_ended {answer : Except Failure β} (done : ends held world answer) :
    company.Keeps ends held world (.ended answer) := done

/-- An operation is taken in the world as it is met, and the strand goes on with its answer. -/
theorem keeps_atom {step : Step α} {next : α → Strand β}
    (keeps : ∀ met, company.Meets held world met → (held = none → company.Drawn met) → ∃ taken answer after,
      step met = (answer, after) ∧ after.host = met.host ∧ company.Allows held taken met.disk after.disk ∧
      company.Keeps ends taken after (Strand.ended answer >>= next)) :
    company.Keeps ends held world (Strand.atom step >>= next) := by
  intro met meets drawn
  obtain ⟨taken, answer, after, same, host, allows, rest⟩ := keeps met meets drawn
  refine ⟨taken, ?_, ?_, ?_⟩
  · simpa only [same] using host
  · simpa only [same] using allows
  · simp only [same]
    exact rest

theorem keeps_atom_last {step : Step β}
    (keeps : ∀ met, company.Meets held world met → ∃ taken answer after, step met = (answer, after) ∧
      after.host = met.host ∧ company.Allows held taken met.disk after.disk ∧ ends taken after answer) :
    company.Keeps ends held world (Strand.atom step) := by
  intro met meets _
  obtain ⟨taken, answer, after, same, host, allows, done⟩ := keeps met meets
  refine ⟨taken, ?_, ?_, ?_⟩
  · simpa only [same] using host
  · simpa only [same] using allows
  · simp only [same]
    exact done

theorem keeps_check {view : World → Except Failure α} {next : α → Strand β}
    (keeps : ∀ met, company.Meets none world met → company.Keeps ends none met (Strand.ended (view met) >>= next)) :
    company.Keeps ends none world (Strand.atom (Step.check view) >>= next) :=
  keeps_atom fun met meets _ =>
    ⟨none, view met, met, rfl, rfl, allows_nothing meets.standing.sound, keeps met meets⟩

theorem keeps_look {view : World → α} {next : α → Strand β}
    (keeps : ∀ met, company.Meets none world met → company.Keeps ends none met (next (view met))) :
    company.Keeps ends none world (Strand.atom (Step.look view) >>= next) :=
  keeps_atom fun met meets _ =>
    ⟨none, .ok (view met), met, rfl, rfl, allows_nothing meets.standing.sound, keeps met meets⟩

theorem Keeps.bind {first : Option Location → World → Except Failure α → Prop} {strand : Strand α}
    {next : α → Strand β} (keeps : company.Keeps first held world strand)
    (fails : ∀ taken after failure, first taken after (.error failure) → ends taken after (.error failure))
    (goes : ∀ taken after value, first taken after (.ok value) → company.Keeps ends taken after (next value)) :
    company.Keeps ends held world (strand >>= next) := by
  -- What is held and the world change with each operation, so that the induction is over all of them.
  induction strand generalizing held world with
  | ended answer =>
      cases answer with
      | error failure => exact fails held world failure keeps
      | ok value => exact goes held world value keeps
  | going change onward ih =>
      intro met meets drawn
      obtain ⟨taken, host, allows, rest⟩ := keeps met meets drawn
      exact ⟨taken, host, allows, ih met rest⟩

theorem Keeps.mono {first : Option Location → World → Except Failure β → Prop} {strand : Strand β}
    (keeps : company.Keeps first held world strand)
    (weaker : ∀ taken after answer, first taken after answer → ends taken after answer) :
    company.Keeps ends held world strand := by
  induction strand generalizing held world with
  | ended answer => exact weaker held world answer keeps
  | going change onward ih =>
      intro met meets drawn
      obtain ⟨taken, host, allows, rest⟩ := keeps met meets drawn
      exact ⟨taken, host, allows, ih met rest⟩

/-- A strand that tidies up after a failure, taking one more turn for it. -/
theorem Keeps.orTidy {first : Option Location → World → Except Failure β → Prop} {strand : Strand β}
    {tidy : World → World} (keeps : company.Keeps first held world strand)
    (done : ∀ taken after value, first taken after (.ok value) → ends taken after (.ok value))
    (fails : ∀ taken after failure, first taken after (.error failure) → ∀ met, company.Meets taken after met →
      ∃ left, (tidy met).host = met.host ∧ company.Allows taken left met.disk (tidy met).disk ∧
        ends left (tidy met) (.error failure)) :
    company.Keeps ends held world (strand.orTidy tidy) := by
  induction strand generalizing held world with
  | ended answer =>
      cases answer with
      | error failure => exact fun met meets _ => fails held world failure keeps met meets
      | ok value => exact done held world value keeps
  | going change onward ih =>
      intro met meets drawn
      obtain ⟨taken, host, allows, rest⟩ := keeps met meets drawn
      exact ⟨taken, host, allows, ih met rest⟩

/-- While others have their turns, a strand that waits still keeps to what it may do. -/
theorem Keeps.later {strand : Strand β} {later : World} (keeps : company.Keeps ends held world strand)
    (meets : company.Meets held world later)
    (steady : ∀ answer, ends held world answer → ends held later answer) :
    company.Keeps ends held later strand := by
  cases strand with
  | ended answer => exact steady answer keeps
  | going change onward => exact fun met further drawn => keeps met (meets.trans further) drawn

end PipDriver.Company
