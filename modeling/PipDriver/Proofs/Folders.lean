import PipDriver.Proofs.Guarantees
import PipDriver.Proofs.Strands

/-!
Making the folders of a copy in company: others may make some of them at the same time, and nobody puts anything
else in their place.
-/

namespace PipDriver

open Bytes (dot)

open Disk

namespace Company

variable {company : Company} {relative : Path} {bytes : ByteArray} {α β : Type}

inductive Outcome (company : Company) (relative : Path) (good : World → α → Prop) :
    Option Location → World → Except Failure α → Prop
  | done {after : World} {value : α} (standing : company.Standing after) (is : good after value) :
      Outcome company relative good none after (.ok value)
  | failed {after : World} {failure : Failure} (standing : company.Standing after)
      (blocked : ¬company.Passable relative) : Outcome company relative good none after (.error failure)

theorem Keeps.outcome_bind {good : World → α → Prop} {other : World → β → Prop} {held : Option Location}
    {world : World} {strand : Strand α} {next : α → Strand β}
    (keeps : company.Keeps (company.Outcome relative good) held world strand)
    (goes : ∀ after value, company.Standing after → good after value →
      company.Keeps (company.Outcome relative other) none after (next value)) :
    company.Keeps (company.Outcome relative other) held world (strand >>= next) := by
  refine keeps.bind ?_ ?_
  · intro taken after failure failed
    cases failed with
    | failed standing blocked => exact .failed standing blocked
  · intro taken after value done
    cases done with
    | done standing is => exact goes after value standing is

section Sound

variable (settled : company.Settled) (fetchable : company.Fetchable relative bytes)
  (passable : company.Passable relative) {disk : Disk} (sound : company.Sound disk)
include settled fetchable passable sound

theorem Passable.firm_now : Firm disk ((company.copy relative).ways company.base) := by
  intro way on
  cases sound way with
  | kept same => exact same ▸ passable.firm way on
  | way _ made => exact Or.inr made
  | stored other blocking spot =>
      exact (blocking.apart (other.apart settled fetchable (spot ▸ on))).elim
  | loose loose =>
      obtain ⟨name, last, wanted⟩ := fetchable.asked.way_wanted on
      exact (loose.not_wanted last wanted).elim

theorem Passable.proper_now : disk.get? ((company.copy relative).spot company.base) ≠ some .folder := by
  intro folder
  cases sound ((company.copy relative).spot company.base) with
  | kept same => exact passable.proper (same ▸ folder)
  | way _ _ other on => exact passable.apart (fetchable.apart settled other on)
  | stored _ _ _ held => simp [bytesAt, folder] at held
  | loose _ held => simp [folder] at held

end Sound

structure Leading (company : Company) (relative path : Path) : Prop where
  absolute : path.route.absolute = (company.copy relative).route.absolute
  names : core path.route.names <+: (core (company.copy relative).route.names).dropLast
  starts : path.bytes <+: (company.copy relative).bytes
  trimmed : openEnd path = path
  ends : core path.route.names = [] ∨ path.route.names.getLast? ≠ some [dot]

section Leading

variable {path above : Path}

theorem leading_of_parent (found : (company.copy relative).parent? = some above) :
    company.Leading relative above :=
  let is := Path.isParent_of_parent? found
  ⟨is.absolute, is.names ▸ List.prefix_refl _, is.starts, is.trimmed, is.ends⟩

theorem Leading.parent (leading : company.Leading relative path) (found : path.parent? = some above) :
    company.Leading relative above :=
  let is := Path.isParent_of_parent? found
  ⟨is.absolute.trans leading.absolute, (is.names ▸ List.dropLast_prefix _).trans leading.names,
    is.starts.trans leading.starts, is.trimmed, is.ends⟩

theorem Leading.startOf_eq (leading : company.Leading relative path) :
    startOf company.base path = startOf company.base (company.copy relative) := by
  rw [startOf, startOf, leading.absolute]

variable (settled : company.Settled) (fetchable : company.Fetchable relative bytes)
include settled fetchable

theorem ways_eq : (company.copy relative).ways company.base =
    stops (startOf company.base (company.copy relative)) (core (company.copy relative).route.names).dropLast := by
  obtain ⟨⟨last, named, plain, -⟩, -⟩ := fetchable.names settled
  obtain ⟨front, split⟩ := List.getLast?_eq_some_iff.mp named
  have whole : core (front ++ [last]) = core front ++ [last] := by simp [core, plain.notDot]
  rw [Path.ways, split, whole, List.dropLast_concat, List.dropLast_concat, stops_core]

theorem Leading.on_way (leading : company.Leading relative path) {stop : Location}
    (member : stop ∈ stops (startOf company.base path) path.route.names) :
    stop ∈ (company.copy relative).ways company.base := by
  rw [leading.startOf_eq, ← stops_core] at member
  rw [ways_eq settled fetchable]
  exact stops_of_prefix _ leading.names member

omit settled fetchable in
theorem Leading.short (leading : company.Leading relative path) (passable : company.Passable relative) :
    ∀ name ∈ path.route.names, ¬longestName < name.length := by
  intro name member
  by_cases dot : name = [dot]
  · subst dot
    decide
  · have among : name ∈ core path.route.names := List.mem_filter.mpr ⟨member, by simpa using dot⟩
    have kept := List.dropLast_subset _ (leading.names.subset among)
    exact passable.fit.short name (List.mem_filter.mp kept).1

def Laid (company : Company) (path : Path) (world : World) : Prop :=
  ∀ stop ∈ stops (startOf company.base path) path.route.names, world.disk.get? stop = some .folder

omit settled fetchable in
theorem Laid.later {before after : World} (laid : company.Laid path before)
    (onward : company.Onward before.disk after.disk) : company.Laid path after :=
  fun stop member => onward.folders stop (laid stop member)

section Settling

variable {world met : World} {fault : Fault} {reported : Path}

theorem Leading.refused (leading : company.Leading relative path) (passable : company.Passable relative)
    (given : ¬path.isEmpty = true) (standing : company.Standing world)
    (refused : world.disk.makeFolder world.host.folder path = .error fault) :
    fault = .missing ∨ (fault = .taken ∧ company.Laid path world) := by
  rw [standing.base_eq] at refused
  have firm : Firm world.disk (stops (startOf company.base path) path.route.names) :=
    fun stop member => passable.firm_now settled fetchable standing.sound stop
      (leading.on_way settled fetchable member)
  rcases Path.makeFolder_refused (standing.linkFree settled) leading.trimmed
    (Path.usable_of_prefix leading.starts passable.fit.usable given) firm (leading.short passable) refused with
    missing | ⟨taken, clear⟩
  · exact Or.inl missing
  · exact Or.inr ⟨taken, clear.folders⟩

omit fetchable in
theorem keeps_settleFor (leading : company.Leading relative path) (given : ¬path.isEmpty = true)
    (laid : company.Passable relative → company.Laid path world) :
    company.Keeps (company.Outcome relative fun after _ => company.Laid path after) none world
      (Strand.settleFor reported path fault) := by
  refine keeps_look fun met meets => ?_
  have standing := meets.standing
  by_cases there : met.isFolder path = true
  · rw [if_pos there]
    refine keeps_pure (.done standing ?_)
    rw [World.isFolder, standing.base_eq, Path.isFolder_iff (standing.linkFree settled)] at there
    exact there.2.folders
  · rw [if_neg there]
    refine keeps_ended (.failed standing fun passable => there ?_)
    rw [World.isFolder, standing.base_eq, Path.isFolder_iff (standing.linkFree settled)]
    exact ⟨Path.usable_of_prefix leading.starts passable.fit.usable given,
      (laid passable).later meets.onward, leading.short passable⟩

/-- One folder is made, or there is a reason to go on. -/
theorem keeps_tryFolder {good : World → β → Prop} {next : Except Fault Unit → Strand β}
    (leading : company.Leading relative path)
    (made : ∀ after, company.Standing after → company.Laid path after →
      company.Keeps (company.Outcome relative good) none after (next (.ok ())))
    (refused : ∀ met fault, company.Meets none world met →
      met.disk.makeFolder met.host.folder path = .error fault →
      company.Keeps (company.Outcome relative good) none met (next (.error fault))) :
    company.Keeps (company.Outcome relative good) none world (Strand.atom (Strand.tryFolder path) >>= next) := by
  refine keeps_atom fun met meets _ => ?_
  have standing := meets.standing
  cases tried : met.disk.makeFolder met.host.folder path with
  | error fault =>
      exact ⟨none, _, met, Strand.tryFolder_of_error tried, rfl, allows_nothing standing.sound,
        refused met fault meets tried⟩
  | ok disk =>
      obtain ⟨here, last, ways, free, rfl, clear⟩ := Path.makeFolder_made (standing.linkFree settled)
        leading.trimmed (standing.base_eq ▸ tried)
      have on := leading.on_way settled fetchable (show here ++ [last] ∈ _ by rw [ways]; simp)
      have allows := allows_folder standing.sound fetchable on (by simp) free
      exact ⟨none, _, _, Strand.tryFolder_of_ok tried, rfl, allows,
        made _ (standing.next rfl allows) clear.folders⟩

end Settling

omit settled fetchable in
theorem Laid.folders_above {world : World} (found : path.parent? = some above) (laid : company.Laid above world) :
    ∀ stop ∈ stops (startOf company.base path) (core path.route.names).dropLast,
      world.disk.get? stop = some .folder := by
  have is := Path.isParent_of_parent? found
  intro stop member
  refine laid stop ?_
  rwa [← stops_core, is.names, startOf, is.absolute]

omit fetchable in
/-- Where storing is possible at all, a folder is missing only below another that is missing. -/
theorem Leading.ne_missing (leading : company.Leading relative path) (passable : company.Passable relative)
    (given : ¬path.isEmpty = true) {world : World} (standing : company.Standing world)
    (folders : ∀ stop ∈ stops (startOf company.base path) (core path.route.names).dropLast,
      world.disk.get? stop = some .folder) :
    world.disk.makeFolder world.host.folder path ≠ .error .missing := by
  rw [standing.base_eq]
  exact Path.makeFolder_ne_missing (standing.linkFree settled) leading.trimmed
    (Path.usable_of_prefix leading.starts passable.fit.usable given) (leading.short passable) folders leading.ends

theorem keeps_makeFolders {world : World} (reported : Path) (leading : company.Leading relative path)
    (standing : company.Standing world) :
    company.Keeps (company.Outcome relative fun after _ => company.Laid path after) none world
      (Strand.makeFolders reported path) := by
  generalize measured : path.bytes.length = size
  -- The folder above has a shorter path, and others may have made it by the time that it is tried.
  induction size using Nat.strongRecOn generalizing path world with
  | ind size ih =>
    subst measured
    unfold Strand.makeFolders
    by_cases empty : path.isEmpty = true
    · rw [if_pos empty]
      have none : path.bytes = [] := by simpa [Path.isEmpty] using empty
      refine keeps_pure (.done standing fun stop member => ?_)
      simp [Path.route, Route.ofBytes, none, Text.fields] at member
    rw [if_neg empty]
    refine keeps_tryFolder settled fetchable leading (fun after standing laid => keeps_pure (.done standing laid)) ?_
    intro met fault meets refused
    have standing := meets.standing
    by_cases other : fault ≠ .missing
    · simp only [other, ne_eq, not_false_eq_true, if_true]
      refine keeps_settleFor settled leading empty fun passable => ?_
      exact ((leading.refused settled fetchable passable empty standing refused).resolve_left other).2
    obtain rfl : fault = .missing := by simpa using other
    simp only [ne_eq, not_true_eq_false, if_false]
    cases found : path.parent? with
    | none =>
        refine keeps_ended (.failed standing fun passable => ?_)
        refine leading.ne_missing settled passable empty standing (fun stop member => ?_) refused
        simp [Path.core_of_no_parent found] at member
    | some parent =>
        have is := Path.isParent_of_parent? found
        by_cases shorter : parent.bytes.length < path.bytes.length
        · simp only [shorter, if_true]
          refine (ih _ shorter (leading.parent found) standing rfl).outcome_bind fun between _ standing laid => ?_
          refine keeps_tryFolder settled fetchable leading
            (fun after standing laid => keeps_pure (.done standing laid)) ?_
          intro met again meets refused
          refine keeps_settleFor settled leading empty fun passable => ?_
          have ready := Laid.folders_above found (laid.later meets.onward)
          rcases leading.refused settled fetchable passable empty meets.standing refused with missing | taken
          · exact (leading.ne_missing settled passable empty meets.standing ready
              (missing ▸ refused)).elim
          · exact taken.2
        · simp only [shorter, if_false]
          refine keeps_ended (.failed standing fun passable => ?_)
          refine leading.ne_missing settled passable empty standing (fun stop member => ?_) refused
          simp [is.core_eq_nil (Nat.le_of_not_lt shorter)] at member

end Leading

end Company

end PipDriver
