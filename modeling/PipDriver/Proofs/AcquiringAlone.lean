import PipDriver.Proofs.Sharing

/-!
Acquiring a file alone: it succeeds only where a copy can be stored, or where one of what is upstream was there
already. With others there is therefore no failure that would not have come alone.
-/

namespace PipDriver.Company

open Disk

variable {company : Company} {relative : Path} {bytes : ByteArray} {world : World} {uri : Text}
  {answer : Option Path} {β : Type}

/-- Alone, who holds nothing can always make a temporary file of the number that was drawn once. -/
theorem drawn_alone (settled : company.Settled) (drawn : company.Drawn company.start)
    (standing : company.Standing world) (host : world.host = company.start.host)
    (lone : ∀ location, company.Loose location → world.disk.get? location = none) : company.Drawn world where
  few := host ▸ drawn.few
  apart := host ▸ drawn.apart
  fresh := by
    rw [host]
    refine isFresh_of_get? fun location last => ?_
    by_contra present
    have unwanted : ∀ name, location.getLast? = some name → ¬company.Wants name := by
      intro name named wanted
      rw [last, Option.some.injEq] at named
      exact drawn.apart (named ▸ wanted)
    cases standing.sound location with
    | kept same => exact present (same.trans (get?_of_isFresh drawn.fresh last))
    | way _ _ fetchable on =>
        obtain ⟨name, named, wanted⟩ := fetchable.asked.way_wanted on
        exact unwanted name named wanted
    | stored fetchable _ spot =>
        obtain ⟨name, named, wanted⟩ := fetchable.spot_wanted settled
        exact unwanted name (spot ▸ named) wanted
    | loose loose => exact present (lone location loose)

/-- A strand that keeps to what it may do comes to its end also when nobody else has a turn. -/
theorem Keeps.alone {held : Option Location} {ends : Option Location → World → Except Failure β → Prop}
    {strand : Strand β} (keeps : company.Keeps ends held world strand) (settled : company.Settled)
    (drawn : company.Drawn company.start) (standing : company.Standing world)
    (host : world.host = company.start.host)
    (lone : ∀ location, company.Loose location → world.disk.get? location ≠ none → held = some location) :
    ∃ taken, ends taken (strand.alone world).2 (strand.alone world).1 ∧
      (strand.alone world).2.host = company.start.host ∧
      ∀ location, company.Loose location → (strand.alone world).2.disk.get? location ≠ none →
        taken = some location := by
  induction strand generalizing held world with
  | ended answer => exact ⟨held, keeps, host, lone⟩
  | going change onward ih =>
      have draws : held = none → company.Drawn world := by
        rintro rfl
        refine drawn_alone settled drawn standing host fun location loose => ?_
        by_contra present
        cases lone location loose present
      obtain ⟨taken, same, allows, rest⟩ := keeps world (standing.meets_self held) draws
      refine ih world rest (standing.next same allows) (same.trans host) fun location loose present => ?_
      by_contra other
      by_cases mine : held = some location
      · exact present (allows.dropped location mine other)
      · rw [allows.others location loose mine other] at present
        exact mine (lone location loose present)

theorem standing_drawing (company : Company) (number : Nat) :
    company.Standing (Scene.drawing company.start number) where
  hosted := ⟨number, rfl⟩
  sound := (standing_start company).sound
  onward := .refl company _

variable (settled : company.Settled)
include settled

theorem passable_of_write (disk : world.disk = company.start.disk)
    (hosted : ∃ number, world.host = { company.start.host with firstSerial := number })
    (done : (AtomicFile.write (company.copy relative) bytes world).1 = .ok ()) : company.Passable relative := by
  obtain ⟨⟨location, allowed⟩, temporary, folder, name, made, ⟨number, rfl⟩, placed⟩ :=
    AtomicFile.made_of_write done
  have built : Built company.start.disk (AtomicFile.prepared world (company.copy relative)) :=
    disk ▸ AtomicFile.prepared_built world _
  have base : world.host.folder = company.base := by
    obtain ⟨number, same⟩ := hosted
    rw [same]
    rfl
  have same : temporary = company.temporary relative number := placed.trans (temporary_eq hosted relative number)
  have usable := usable_of_find made.free
  rw [same] at usable
  rw [base] at allowed
  refine (passable_of_moveTarget (built.linkFree settled.linkFree) (fun _ => built.kept _ _) ?_
    (fun _ few => roomy_of_usable usable few) allowed).1
  intro way folder
  rcases built way with same | ⟨absent, -⟩
  · exact Or.inr (same ▸ folder)
  · exact Or.inl absent

variable (asked : company.Asked relative) (named : Cache.relative uri = .ok relative)
  (upstream : company.start.contents? (company.resource relative) = some bytes)
include named upstream

theorem passable_of_fetch {number : Nat}
    (done : (company.cache.fetchRecorded uri (Scene.drawing company.start number)).1 = .ok answer) :
    company.Passable relative := by
  have given : (Scene.drawing company.start number).contents? (company.cache.root.join relative) = some bytes :=
    upstream
  rw [Cache.fetchRecorded_found named given] at done
  split at done
  · rename_i written
    have done : (AtomicFile.write (company.copy relative) bytes
        ((Scene.drawing company.start number).moved company.start.disk [.fetched uri])).1 = .ok () :=
      congrArg Prod.fst written
    refine passable_of_write settled ?_ ?_ done
    · rfl
    · exact ⟨number, rfl⟩
  · cases done

include asked

/-- Whatever number is drawn, a call that is alone fails where no copy can be stored and none was there. -/
theorem passable_of_acquire {number : Nat}
    (done : (company.cache.acquire (.remote uri) (Scene.drawing company.start number)).1 = .ok answer) :
    company.Passable relative ∨ company.start.contents? (company.copy relative) = some bytes := by
  have given : (Scene.drawing company.start number).contents? (company.cache.root.join relative) = some bytes :=
    upstream
  rw [Cache.acquire_remote] at done
  cases cached : (Scene.drawing company.start number).contents? (company.cache.folder.join relative) with
  | some old =>
      rw [Cache.currentCopy_of_kept named cached, Cache.isOutdated_of_contents? named given cached] at done
      by_cases same : Digest.ofBytes bytes = Digest.ofBytes old
      · have current := (standing_drawing company number).copy_of_digest settled asked upstream cached same
        exact Or.inr (current ▸ cached)
      · rw [decide_eq_true same] at done
        exact Or.inl (passable_of_fetch settled named upstream done)
  | none =>
      rw [Cache.currentCopy_of_not_kept named cached] at done
      cases fetched : (company.cache.fetchRecorded uri (Scene.drawing company.start number)).1 with
      | ok copy => exact Or.inl (passable_of_fetch settled named upstream fetched)
      | error failure =>
          rw [show company.cache.fetchRecorded uri (Scene.drawing company.start number) = (.error failure, _) from
            Prod.ext fetched rfl] at done
          cases done

omit upstream in
/-- A call that is alone ends as it should, and leaves no temporary file. -/
theorem obtained_alone (drawn : company.Drawn company.start) :
    company.Obtained relative none (company.cache.acquire (.remote uri) company.start).2
        (company.cache.acquire (.remote uri) company.start).1 ∧
      (company.cache.acquire (.remote uri) company.start).2.host = company.start.host ∧
      ∀ location, company.Loose location →
        (company.cache.acquire (.remote uri) company.start).2.disk.get? location = none := by
  rw [← Strand.alone_acquire]
  obtain ⟨taken, obtained, host, lone⟩ := (keeps_acquire settled asked named).alone settled drawn
    (standing_start company) rfl fun location loose present => (present loose.absent).elim
  obtain rfl := obtained.holds_nothing
  refine ⟨obtained, host, fun location loose => ?_⟩
  by_contra present
  cases lone location loose present

end PipDriver.Company
