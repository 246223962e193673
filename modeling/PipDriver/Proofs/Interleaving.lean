import Mathlib.Logic.Function.Basic
import PipDriver.Proofs.AcquiringAlone

/-!
Several who acquire files through one cache, one operation of one of them at a time, in any order: a copy is at every
moment the old one or that of what is upstream, nobody fails who would not have failed alone, and in the end the
order made no difference.
-/

namespace PipDriver

open Disk

def Strand.value? {α : Type} : Strand α → Option α
  | .ended (.ok value) => some value
  | _ => none

theorem Strand.ended_of_value? {α : Type} {strand : Strand α} {value : α} (same : strand.value? = some value) :
    strand = .ended (.ok value) := by
  unfold value? at same
  split at same
  · rw [Option.some.inj same]
  · cases same

namespace Scene

variable {α : Type} {scene next : Scene α} {place number : Nat}

def Finished (scene : Scene α) : Prop := ∀ strand ∈ scene.strands, ∃ answer, strand = .ended answer

theorem going_of_turn? (turned : scene.turn? place number = some next) : ∃ change onward,
    scene.strands[place]? = some (.going change onward) ∧
      next = ⟨change (drawing scene.world number), scene.strands.set place (onward (drawing scene.world number))⟩ := by
  unfold turn? at turned
  split at turned
  · rename_i change onward there
    exact ⟨change, onward, there, (Option.some.inj turned).symm⟩
  · cases turned

def Shorter (near strands : List (Strand α)) : Prop := ∃ (place : Nat) (change : World → World) (onward : World → Strand α)
  (met : World), strands[place]? = some (.going change onward) ∧ near = strands.set place (onward met)

/-- Whatever the others do, each strand comes to its end, and then all have. -/
theorem acc_shorter (strands : List (Strand α)) : Acc Shorter strands := by
  -- A turn of a later strand is a descent of `rest`, a turn of the first one goes to a subterm of it.
  induction strands with
  | nil =>
      refine ⟨_, ?_⟩
      rintro near ⟨place, change, onward, met, there, -⟩
      simp at there
  | cons strand rest ih =>
      induction ih generalizing strand with
      | intro rest _ ihRest =>
        induction strand with
        | ended answer =>
            refine ⟨_, ?_⟩
            rintro near ⟨place, change, onward, met, there, rfl⟩
            cases place with
            | zero => cases there
            | succ place => exact ihRest _ ⟨place, change, onward, met, there, rfl⟩ _
        | going change onward ihStrand =>
            refine ⟨_, ?_⟩
            rintro near ⟨place, other, further, met, there, rfl⟩
            cases place with
            | zero =>
                cases there
                exact ihStrand met
            | succ place => exact ihRest _ ⟨place, other, further, met, there, rfl⟩ _

end Scene

namespace Company

section Definitions

variable (company : Company)

def opening : Scene (Option Path) where
  world := company.start
  strands := company.uris.map (Strand.acquire company.cache)

def Turn (scene next : Scene (Option Path)) : Prop :=
  ∃ place number, company.Drawn (Scene.drawing scene.world number) ∧ scene.turn? place number = some next

/-- The second scene can come after the first, when turns are taken in some order. -/
def Leads : Scene (Option Path) → Scene (Option Path) → Prop := Relation.ReflTransGen company.Turn

def plays : List (Nat × Nat) → Scene (Option Path) → Option (Scene (Option Path))
  | [], scene => some scene
  | (place, number) :: rest, scene =>
    if company.Drawn (Scene.drawing scene.world number) then (scene.turn? place number).bind (plays rest) else none

structure Ledger (disk : Disk) (places : Nat) (holds : Nat → Option Location) : Prop where
  owned : ∀ place location, holds place = some location → company.Loose location ∧ disk.get? location ≠ none
  single : ∀ place other location, holds place = some location → holds other = some location → place = other
  accounted : ∀ location, company.Loose location → disk.get? location ≠ none →
    ∃ place < places, holds place = some location

structure Concord (scene : Scene (Option Path)) (holds : Nat → Option Location) : Prop where
  standing : company.Standing scene.world
  everyone : scene.strands.length = company.uris.length
  ledger : company.Ledger scene.world.disk company.uris.length holds
  keeps : ∀ place uri relative strand, company.uris[place]? = some uri → Cache.relative uri = .ok relative →
    scene.strands[place]? = some strand →
    company.Keeps (company.Obtained relative) (holds place) scene.world strand

end Definitions

variable {company : Company} {scene near far other : Scene (Option Path)} {holds : Nat → Option Location}
  {relative : Path} {bytes : ByteArray} {place : Nat} {uri : Text}

theorem leads_of_plays {turns : List (Nat × Nat)} (played : company.plays turns scene = some far) :
    company.Leads scene far := by
  induction turns generalizing scene with
  | nil =>
      obtain rfl := Option.some.inj played
      exact .refl
  | cons turn rest ih =>
      obtain ⟨place, number⟩ := turn
      simp only [plays] at played
      split at played
      · rename_i drawn
        obtain ⟨near, turned, onwards⟩ := Option.bind_eq_some_iff.mp played
        exact .head ⟨place, number, drawn, turned⟩ (ih onwards)
      · cases played

theorem asked_of_getElem? (among : company.uris[place]? = some uri) (named : Cache.relative uri = .ok relative) :
    company.Asked relative := ⟨uri, List.mem_of_getElem? among, named⟩

/-- Nobody keeps the others from coming to an end: turns cannot be taken for ever. -/
theorem turns_end (company : Company) : WellFounded fun near scene => company.Turn scene near := by
  refine ⟨fun scene => ?_⟩
  refine Subrelation.accessible ?_ (InvImage.accessible Scene.strands (Scene.acc_shorter scene.strands))
  rintro near scene ⟨place, number, -, turned⟩
  obtain ⟨change, onward, there, rfl⟩ := Scene.going_of_turn? turned
  exact ⟨place, change, onward, _, there, rfl⟩

/-- The answer that somebody has got stays a right one. -/
theorem Obtained.later {held : Option Location} {world after : World} {answer : Except Failure (Option Path)}
    (settled : company.Settled) (asked : company.Asked relative)
    (obtained : company.Obtained relative held world answer) (standing : company.Standing after)
    (onward : company.Onward world.disk after.disk) : company.Obtained relative held after answer := by
  cases obtained with
  | missing _ upstream => exact .missing standing upstream
  | copied before upstream there =>
      exact .copied standing upstream (before.copy_current settled asked standing onward upstream there)
  | failed _ upstream blocked stale => exact .failed standing upstream blocked stale

section Ledgers

variable {before after : Disk} {places elsewhere : Nat} {taken : Option Location} {location : Location}

/-- What somebody else holds was neither held nor newly made where the turn was taken. -/
theorem Ledger.steady (ledger : company.Ledger before places holds)
    (allows : company.Allows (holds place) taken before after) (different : elsewhere ≠ place)
    (held : holds elsewhere = some location) :
    taken ≠ some location ∧ after.get? location = before.get? location := by
  obtain ⟨loose, present⟩ := ledger.owned elsewhere location held
  have notHeld : holds place ≠ some location := fun here => different (ledger.single _ _ _ held here)
  have notTaken : taken ≠ some location := by
    intro took
    rcases (allows.took location took).2.2 with here | free
    · exact notHeld here
    · exact present free
  exact ⟨notTaken, allows.others location loose notHeld notTaken⟩

theorem Ledger.next (ledger : company.Ledger before places holds) (within : place < places)
    (allows : company.Allows (holds place) taken before after) :
    company.Ledger after places (Function.update holds place taken) where
  owned := by
    intro elsewhere location held
    by_cases same : elsewhere = place
    · subst same
      rw [Function.update_self] at held
      obtain ⟨loose, present, -⟩ := allows.took location held
      exact ⟨loose, present⟩
    · rw [Function.update_of_ne same] at held
      rw [(ledger.steady allows same held).2]
      exact ledger.owned _ _ held
  single := by
    intro first second location held again
    by_cases one : first = place <;> by_cases two : second = place
    · rw [one, two]
    · subst one
      rw [Function.update_self] at held
      rw [Function.update_of_ne two] at again
      exact ((ledger.steady allows two again).1 held).elim
    · subst two
      rw [Function.update_self] at again
      rw [Function.update_of_ne one] at held
      exact ((ledger.steady allows one held).1 again).elim
    · rw [Function.update_of_ne one] at held
      rw [Function.update_of_ne two] at again
      exact ledger.single _ _ _ held again
  accounted := by
    intro location loose present
    by_cases took : taken = some location
    · exact ⟨place, within, by rw [Function.update_self, took]⟩
    by_cases held : holds place = some location
    · exact (present (allows.dropped location held took)).elim
    · rw [allows.others location loose held took] at present
      obtain ⟨elsewhere, inside, holding⟩ := ledger.accounted location loose present
      have different : elsewhere ≠ place := by
        rintro rfl
        exact held holding
      exact ⟨elsewhere, inside, by rw [Function.update_of_ne different, holding]⟩

end Ledgers

theorem Standing.drawing {world : World} (standing : company.Standing world) (number : Nat) :
    company.Standing (Scene.drawing world number) where
  hosted := by
    obtain ⟨old, same⟩ := standing.hosted
    exact ⟨number, by simp [Scene.drawing, same]⟩
  sound := standing.sound
  onward := standing.onward

section Turns

variable (settled : company.Settled)
include settled

theorem concord_opening : company.Concord company.opening fun _ => none where
  standing := standing_start company
  everyone := List.length_map ..
  ledger := {
    owned := fun _ _ impossible => nomatch impossible
    single := fun _ _ _ impossible => nomatch impossible
    accounted := fun _ loose present => (present loose.absent).elim }
  keeps := by
    intro place uri relative strand among named there
    rw [opening, List.getElem?_map, among] at there
    obtain rfl := Option.some.inj there
    exact keeps_acquire settled (asked_of_getElem? among named) named

theorem Concord.turn (concord : company.Concord scene holds) (turn : company.Turn scene near) :
    ∃ taken, company.Concord near taken ∧ company.Onward scene.world.disk near.world.disk := by
  obtain ⟨place, number, drawn, turned⟩ := turn
  obtain ⟨change, onward, there, rfl⟩ := Scene.going_of_turn? turned
  have within : place < scene.strands.length := (List.getElem?_eq_some_iff.mp there).1
  obtain ⟨uri, among⟩ : ∃ uri, company.uris[place]? = some uri :=
    ⟨_, List.getElem?_eq_getElem (concord.everyone ▸ within)⟩
  obtain ⟨relative, named⟩ := settled.named uri (List.mem_of_getElem? among)
  have met : company.Meets (holds place) scene.world (Scene.drawing scene.world number) :=
    ⟨concord.standing.drawing number, .refl company _, fun _ _ => rfl⟩
  obtain ⟨taken, host, allows, rest⟩ := concord.keeps place uri relative _ among named there _ met fun _ => drawn
  have standing := met.standing.next host allows
  refine ⟨Function.update holds place taken, ⟨standing, by simpa using concord.everyone,
    concord.ledger.next (concord.everyone ▸ within) allows, ?_⟩, allows.onward⟩
  intro elsewhere otherUri otherRelative strand otherAmong otherNamed otherThere
  -- Who took the turn goes on as it keeps to; for the others it is one more that came in between.
  by_cases same : elsewhere = place
  · subst same
    obtain rfl := Option.some.inj (among.symm.trans otherAmong)
    obtain rfl := Except.ok.inj (named.symm.trans otherNamed)
    rw [List.getElem?_set_self within] at otherThere
    rw [Function.update_self, ← Option.some.inj otherThere]
    exact rest
  · rw [List.getElem?_set_ne (Ne.symm same)] at otherThere
    rw [Function.update_of_ne same]
    refine (concord.keeps _ _ _ _ otherAmong otherNamed otherThere).later
      ⟨standing, allows.onward, fun location held => (concord.ledger.steady allows same held).2⟩ ?_
    intro answer obtained
    exact obtained.later settled (asked_of_getElem? otherAmong otherNamed) standing allows.onward

theorem Concord.run (concord : company.Concord scene holds) (leads : company.Leads scene far) :
    ∃ taken, company.Concord far taken ∧ company.Onward scene.world.disk far.world.disk := by
  induction leads with
  | refl => exact ⟨holds, concord, .refl company _⟩
  | tail _ turn ih =>
      obtain ⟨between, concord, onward⟩ := ih
      obtain ⟨taken, concord, further⟩ := concord.turn settled turn
      exact ⟨taken, concord, onward.trans further⟩

omit settled in
/-- Whoever has an answer has a right one, and holds nothing any more. -/
theorem Concord.answer {answer : Except Failure (Option Path)} (concord : company.Concord scene holds)
    (among : company.uris[place]? = some uri) (named : Cache.relative uri = .ok relative)
    (ended : scene.strands[place]? = some (.ended answer)) :
    company.Obtained relative none scene.world answer ∧ holds place = none := by
  have obtained : company.Obtained relative (holds place) scene.world answer :=
    concord.keeps place uri relative _ among named ended
  have nothing := obtained.holds_nothing
  exact ⟨nothing ▸ obtained, nothing⟩

section Finished

variable (concord : company.Concord scene holds) (finished : scene.Finished)
include concord finished

theorem Concord.finished_at (within : place < company.uris.length) : ∃ uri relative answer,
    company.uris[place]? = some uri ∧ Cache.relative uri = .ok relative ∧
      company.Obtained relative none scene.world answer ∧ holds place = none := by
  have there := List.getElem?_eq_getElem (concord.everyone.symm ▸ within)
  obtain ⟨answer, ended⟩ := finished _ (List.mem_of_getElem? there)
  obtain ⟨relative, named⟩ := settled.named _ (List.getElem_mem within)
  have among := List.getElem?_eq_getElem within
  exact ⟨_, relative, answer, among, named, concord.answer among named (ended ▸ there)⟩

theorem Concord.stored (fetchable : company.Fetchable relative bytes) (passable : company.Passable relative) :
    scene.world.disk.bytesAt ((company.copy relative).spot company.base) = some bytes := by
  obtain ⟨uri, among, named⟩ := fetchable.asked
  obtain ⟨place, within, same⟩ := List.mem_iff_getElem.mp among
  obtain ⟨_, other, answer, found, again, obtained, -⟩ := concord.finished_at settled finished within
  rw [List.getElem?_eq_getElem within, same, Option.some.injEq] at found
  subst found
  obtain rfl := Except.ok.inj (named.symm.trans again)
  cases obtained with
  | missing _ upstream => simp [fetchable.upstream] at upstream
  | copied standing upstream there =>
      obtain rfl := Option.some.inj (upstream.symm.trans fetchable.upstream)
      rw [standing.contents?_eq, Path.contents?_iff (standing.linkFree settled)] at there
      exact there.2.2
  | failed _ _ blocked => exact (blocked passable).elim

/-- In the end there is nothing else that was not there at the start. -/
theorem Concord.untouched {location : Location} (other : ∀ relative bytes, company.Fetchable relative bytes →
    company.Passable relative → location ≠ (company.copy relative).spot company.base) :
    scene.world.disk.bytesAt location = company.start.disk.bytesAt location := by
  cases concord.standing.sound location with
  | kept same => exact bytesAt_congr same
  | way absent made => simp [bytesAt, absent, made]
  | stored fetchable passable spot => exact (other _ _ fetchable passable spot).elim
  | loose loose held =>
      obtain ⟨place, within, holding⟩ := concord.ledger.accounted location loose (by simp [held])
      obtain ⟨_, _, _, _, _, -, nothing⟩ := concord.finished_at settled finished within
      rw [nothing] at holding
      cases holding

end Finished

end Turns

/-- Several who acquire files through one cache, in whatever order they take their turns: everything below the cache
but their temporary files is at every moment as it was at the start or as it is upstream; who is given a path finds
what is upstream there from then on, and who is given none asked for nothing that is upstream; who fails would have
failed alone as well; and once all have ended, the same contents lie everywhere, whatever the order was. -/
theorem acquire_together (settled : company.Settled) (leads : company.Leads company.opening scene) :
    (∀ uri, (Strand.acquire company.cache uri).alone = company.cache.acquire (.remote uri)) ∧
    (∀ names, ¬company.Loose (company.home ++ names) →
      scene.world.disk.bytesAt (company.home ++ names) = company.start.disk.bytesAt (company.home ++ names) ∨
      ∃ bytes, company.start.disk.bytesAt (company.source ++ names) = some bytes ∧
        scene.world.disk.bytesAt (company.home ++ names) = some bytes) ∧
    (∀ (place : Nat) uri relative, company.uris[place]? = some uri → Cache.relative uri = .ok relative →
      scene.world.contents? (company.resource relative) = company.start.contents? (company.resource relative) ∧
      (∀ path, scene.strands[place]? = some (.ended (.ok (some path))) → path = company.copy relative ∧
        ∃ bytes, company.start.contents? (company.resource relative) = some bytes ∧
          ∀ far, company.Leads scene far → far.world.contents? path = some bytes) ∧
      (scene.strands[place]? = some (.ended (.ok none)) →
        company.start.contents? (company.resource relative) = none) ∧
      ∀ failure, scene.strands[place]? = some (.ended (.error failure)) → ∀ number, ∃ other,
        (company.cache.acquire (.remote uri) (Scene.drawing company.start number)).1 = .error other) ∧
    (∀ other, company.Leads company.opening other → scene.Finished → other.Finished → ∀ location,
      scene.world.disk.bytesAt location = other.world.disk.bytesAt location) := by
  obtain ⟨holds, concord, -⟩ := (concord_opening settled).run settled leads
  refine ⟨fun uri => Strand.alone_acquire company.cache uri,
    fun names => concord.standing.sound.bytesAt_below settled, ?_, ?_⟩
  · intro place uri relative among named
    have asked := asked_of_getElem? among named
    refine ⟨concord.standing.resource_contents settled asked, ?_, ?_, ?_⟩
    · intro path ended
      cases (concord.answer among named ended).1 with
      | copied standing upstream there =>
          refine ⟨rfl, _, upstream, fun far onwards => ?_⟩
          obtain ⟨_, further, onward⟩ := concord.run settled onwards
          exact standing.copy_current settled asked further.standing onward upstream there
    · intro ended
      cases (concord.answer among named ended).1 with
      | missing _ upstream => exact upstream
    · intro failure ended number
      cases (concord.answer among named ended).1 with
      | failed standing upstream blocked stale =>
          cases alone : (company.cache.acquire (.remote uri) (Scene.drawing company.start number)).1 with
          | error other => exact ⟨other, rfl⟩
          | ok answer =>
              rcases passable_of_acquire settled asked named upstream alone with passable | fresh
              · exact (blocked passable).elim
              · exact (stale fresh).elim
  · intro other leads finished otherFinished location
    obtain ⟨_, otherConcord, -⟩ := (concord_opening settled).run settled leads
    by_cases copied : ∃ relative bytes, company.Fetchable relative bytes ∧ company.Passable relative ∧
        location = (company.copy relative).spot company.base
    · obtain ⟨relative, bytes, fetchable, passable, rfl⟩ := copied
      rw [concord.stored settled finished fetchable passable,
        otherConcord.stored settled otherFinished fetchable passable]
    · have apart : ∀ relative bytes, company.Fetchable relative bytes → company.Passable relative →
          location ≠ (company.copy relative).spot company.base :=
        fun relative bytes fetchable passable spot => copied ⟨relative, bytes, fetchable, passable, spot⟩
      rw [concord.untouched settled finished apart, otherConcord.untouched settled otherFinished apart]

def sharing : Company where
  cache := Cache.staleCache
  start := Cache.staleWorld
  uris := ["salt://a", "salt://a"]

theorem sharing_settled : sharing.Settled where
  named := by
    intro uri member
    have same : uri = "salt://a" := by simpa [sharing] using member
    exact ⟨"a", same ▸ ok_of_toOption (by decide +kernel)⟩
  linkFree := by decide +kernel
  tree := by decide +kernel
  sited := by decide +kernel
  apart := by decide +kernel
  told := by
    rintro relative ⟨uri, member, named⟩ old bytes there upstream same
    have only : uri = "salt://a" := by simpa [sharing] using member
    have first : Cache.relative "salt://a" = .ok "a" := ok_of_toOption (by decide +kernel)
    obtain rfl : relative = "a" := Except.ok.inj ((only ▸ named).symm.trans first)
    have was : sharing.start.disk.bytesAt ((sharing.copy "a").spot sharing.base) = some ⟨#[121]⟩ := by decide +kernel
    have is : sharing.start.contents? (sharing.resource "a") = some ⟨#[120]⟩ := by decide +kernel
    obtain rfl := Option.some.inj (was.symm.trans there)
    obtain rfl := Option.some.inj (is.symm.trans upstream)
    exact absurd same (by decide +kernel)

/-- They take turns one after the other, and both are given a copy of what is upstream. -/
theorem acquire_together_twice : ∃ scene, sharing.Leads sharing.opening scene ∧ scene.Finished ∧
    ∀ far, sharing.Leads scene far → far.world.contents? "kept/a" = some ⟨#[120]⟩ := by
  have played : (sharing.plays ((List.range 26).map fun turn => (turn % 2, turn)) sharing.opening).map
      (fun scene => scene.strands.map Strand.value?) = some [some (some ("kept/a" : Path)), some (some "kept/a")] := by
    decide +kernel
  obtain ⟨scene, reached, values⟩ := Option.map_eq_some_iff.mp played
  have leads := leads_of_plays reached
  have ended : ∀ strand ∈ scene.strands, strand = .ended (.ok (some "kept/a")) := by
    intro strand member
    have among : strand.value? ∈ scene.strands.map Strand.value? := List.mem_map_of_mem member
    rw [values] at among
    exact Strand.ended_of_value? (by simpa using among)
  refine ⟨scene, leads, fun strand member => ⟨_, ended strand member⟩, fun far onwards => ?_⟩
  obtain ⟨strand, there⟩ : ∃ strand, scene.strands[0]? = some strand := by
    have first := congrArg (fun found => found[0]?) values
    simp only [List.getElem?_map, List.getElem?_cons_zero, Option.map_eq_some_iff] at first
    exact first.imp fun _ => And.left
  rw [ended strand (List.mem_of_getElem? there)] at there
  obtain ⟨-, -, answers, -⟩ := acquire_together sharing_settled leads
  have named : Cache.relative "salt://a" = .ok "a" := ok_of_toOption (by decide +kernel)
  obtain ⟨-, bytes, upstream, lasts⟩ := (answers 0 "salt://a" "a" rfl named).2.1 "kept/a" there
  have given : sharing.start.contents? (sharing.resource "a") = some ⟨#[120]⟩ := by decide +kernel
  obtain rfl := Option.some.inj (given.symm.trans upstream)
  exact lasts far onwards

end Company

end PipDriver
