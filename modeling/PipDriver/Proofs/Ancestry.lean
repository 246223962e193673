import Mathlib.Data.List.DropRight
import Mathlib.Logic.Relation
import PipDriver.Proofs.Parents

/-!
The folders above a path when some of them are missing. They are made from the first one that is missing downwards,
each where a path above leads, and behind the first of them a path that does not go up again meets nothing else.
-/

namespace PipDriver

open Bytes (slash dot)

namespace Disk

section Walks

variable {disk after : Disk} {followLast closed asked : Bool} {links : Nat} {here folder : Location}
  {names : List Bytes} {last : Bytes} {place : Place}

/-- Where names led to a free spot, a walk goes on from there once there is a folder. -/
theorem Arrives.past_vacancy (noFollow : followLast = false) (unclosed : closed = false)
    (arrives : Arrives disk followLast links here names closed (.vacant folder last asked))
    (kept : KeptOff disk after (folder ++ [last])) (made : after.get? (folder ++ [last]) = some .folder) :
    ∃ left, ∀ mode more asks, after.walk mode links here (names ++ more) asks =
      after.walk mode left (folder ++ [last]) more asks := by
  have absent : disk.get? (folder ++ [last]) = none := arrives.holds.1
  have off {location : Location} {entry : Entry} (found : disk.get? location = some entry) :
      after.get? location = some entry := by
    refine kept location entry ?_ found
    rintro rfl
    rw [absent] at found
    cases found
  generalize goal : Place.vacant folder last asked = place at arrives
  induction arrives with
  | home => cases goal
  | stay _ ih => simpa only [List.cons_append, walk_dot] using ih unclosed goal
  | rise _ ih => simpa only [List.cons_append, walk_dots] using ih unclosed goal
  | @vacant links _ _ _ plain _ =>
      injection goal with sameFolder sameName _
      subst sameFolder sameName
      exact ⟨links, fun mode more asks => walk_folder _ _ plain more asks made⟩
  | folder plain found _ ih =>
      obtain ⟨left, course⟩ := ih unclosed goal
      refine ⟨left, fun mode more asks => ?_⟩
      rw [List.cons_append, walk_folder _ _ plain _ _ (off found), course]
  | link _ _ _ => cases goal
  | @through fewer here name target rest closed place plain found onward given _ ih =>
      have further : rest ≠ [] := by
        rintro rfl
        simp [noFollow, unclosed] at onward
      obtain ⟨left, course⟩ := ih (by simp [unclosed, further]) goal
      refine ⟨left, fun mode more asks => ?_⟩
      rw [List.cons_append, walk_link _ _ plain _ _ (off found), if_neg (by simp [further]),
        passLink_succ _ _ _ _ _ _ given, ← List.append_assoc, course]
      simp [further]
  | leaf _ _ _ => cases goal

/-- A walk down among nothing but folders ends where the names say: in a folder that they lead to, or at the absence
of the last one. -/
theorem Arrives.downwards (arrives : Arrives disk followLast links here names closed place)
    (inside : [dot, dot] ∉ names)
    (bare : ∀ part, part ≠ [] → disk.get? (here ++ part) = none ∨ disk.get? (here ++ part) = some .folder) :
    (place = .occupied (here ++ core names) .folder ∧
      (core names ≠ [] → disk.get? (here ++ core names) = some .folder)) ∨
    ∃ folder last, place = .vacant folder last closed ∧ folder ++ [last] = here ++ core names := by
  induction arrives with
  | home => exact Or.inl ⟨by simp [core], fun given => (given rfl).elim⟩
  | stay _ ih =>
      simp only [List.mem_cons, not_or] at inside
      simpa [core] using ih inside.2 bare
  | rise _ _ => simp at inside
  | vacant plain _ => exact Or.inr ⟨_, _, rfl, by simp [core, plain.notDot]⟩
  | @folder _ here name rest _ _ plain found _ ih =>
      simp only [List.mem_cons, not_or] at inside
      have whole : here ++ core (name :: rest) = here ++ [name] ++ core rest := by simp [core, plain.notDot]
      rw [whole]
      rcases ih inside.2 (fun part given => by simpa using bare ([name] ++ part) (by simp)) with
        ⟨ended, there⟩ | ended
      · refine Or.inl ⟨ended, fun _ => ?_⟩
        by_cases last : core rest = []
        · simpa [last] using found
        · exact there last
      · exact Or.inr ended
  | link _ found _ | through _ found _ _ _ _ =>
      rcases bare _ (List.cons_ne_nil _ []) with absent | folder
      · cases absent.symm.trans found
      · cases folder.symm.trans found
  | @leaf _ _ name _ _ found leaf =>
      have kind := bare [name] (List.cons_ne_nil _ [])
      simp only [found, reduceCtorEq, Option.some.injEq, false_or] at kind
      subst kind
      cases leaf

end Walks

section Finds

variable {disk after : Disk} {base here : Location} {path above : Path} {rest : List Bytes} {last : Bytes} {asked : Bool}

theorem find_past_made (names : path.route.names = above.route.names ++ rest)
    (absolute : above.route.absolute = path.route.absolute) (unclosed : above.route.closed = false)
    (vacant : disk.find base above false = .ok (.vacant here last asked))
    (kept : KeptOff disk after (here ++ [last])) (made : after.get? (here ++ [last]) = some .folder)
    (usable : pathFault? path = none) :
    ∃ left, ∀ mode, after.find base path mode = after.walk mode left (here ++ [last]) rest path.route.closed := by
  obtain ⟨left, course⟩ := (arrives_of_find vacant).past_vacancy rfl unclosed kept made
  refine ⟨left, fun mode => ?_⟩
  rw [find_eq_walk usable, names, ← course mode rest path.route.closed, startOf, startOf, absolute]

end Finds

end Disk

namespace Path

open Disk

theorem parent_names_starts {path parent : Path} (above : path.parent? = some parent) :
    parent.route.names <+: path.route.names := by
  unfold parent? at above
  generalize shortened : dropIdleEnd path.segments = named at above
  cases named with
  | nil =>
      simp only at above
      split at above
      · obtain rfl := Option.some.inj above
        exact List.nil_prefix
      · cases above
  | cons first others =>
      obtain rfl := Option.some.inj above
      have starts : first :: others <+: path.segments := shortened ▸ dropIdleEnd_starts _
      exact upTo_names_starts ⟨(dropIdleEnd_starts _).trans ((List.dropLast_prefix _).trans starts),
        fun _ => last_dropIdleEnd _⟩

/-- Its parent has the names of a path, but for some at the end of which one leads anywhere, if any does. -/
theorem parent_tail {path parent : Path} (above : path.parent? = some parent) :
    ∃ tail, path.route.names = parent.route.names ++ tail ∧ (core path.route.names ≠ [] → core tail ≠ []) := by
  obtain ⟨tail, split⟩ := parent_names_starts above
  refine ⟨tail, split.symm, fun given idle => ?_⟩
  have names := (isParent_of_parent? above).names
  have whole : core path.route.names = core parent.route.names := by
    rw [← split, core, List.filter_append, ← core, ← core, idle, List.append_nil]
  rw [← whole] at names
  have length := congrArg List.length names
  rw [List.length_dropLast] at length
  exact given (List.eq_nil_of_length_eq_zero (by omega))

end Path

namespace Disk

variable {disk after made : Disk} {base here location : Location} {path above : Path} {rest : List Bytes} {last : Bytes}

structure Begun (before after : Disk) (base : Location) (path above : Path) (rest : List Bytes) (here : Location)
    (last : Bytes) : Prop where
  names : path.route.names = above.route.names ++ rest
  absolute : above.route.absolute = path.route.absolute
  unclosed : above.route.closed = false
  vacant : before.find base above false = .ok (.vacant here last false)
  made : after.get? (here ++ [last]) = some .folder
  within : [dot, dot] ∉ rest → ∀ location, after.get? location ≠ before.get? location →
    ∃ part, part <+: core rest ∧ location = here ++ [last] ++ part

theorem Begun.core_ne_nil (begun : Begun disk after base path above rest here last) : core path.route.names ≠ [] := by
  have named : above.route.names.getLast? = some last := namedBy_of_find begun.unclosed begun.vacant
  have proper := (arrives_of_find begun.vacant).holds.2.notDot
  refine List.ne_nil_of_mem (a := last) (List.mem_filter.mpr ⟨?_, by simpa using proper⟩)
  rw [begun.names]
  exact List.mem_append_left _ (List.mem_of_getLast? named)

section Descent

variable (tree : disk.Tree) (built : Built disk after) (begun : Begun disk after base path above rest here last)
include tree begun

theorem Begun.absent (part : List Bytes) (below : part ≠ []) : disk.get? (here ++ [last] ++ part) = none := by
  by_contra there
  have folder := tree.folder_above (here ++ [last]) part below there
  rw [get?_of_find_free begun.vacant] at folder
  cases folder

include built

/-- Below the first folder that was made there is nothing else but what was made. -/
theorem Begun.bare (part : List Bytes) (below : part ≠ []) :
    after.get? (here ++ [last] ++ part) = none ∨ after.get? (here ++ [last] ++ part) = some .folder := by
  rcases built (here ++ [last] ++ part) with same | ⟨-, made⟩
  · exact Or.inl (same.trans (begun.absent tree part below))
  · exact Or.inr made

/-- A path that does not go up again leads to the folders that were made, or to the absence of the next one. -/
theorem Begun.find_cases (inside : [dot, dot] ∉ rest) {place : Place} (found : after.find base path false = .ok place) :
    (place = .occupied (here ++ [last] ++ core rest) .folder ∧
      (core rest ≠ [] → after.get? (here ++ [last] ++ core rest) = some .folder)) ∨
    ∃ folder name, place = .vacant folder name path.route.closed ∧ folder ++ [name] = here ++ [last] ++ core rest := by
  have kept : KeptOff disk after (here ++ [last]) := fun location entry _ there => built.kept location entry there
  obtain ⟨left, course⟩ := find_past_made begun.names begun.absolute begun.unclosed begun.vacant kept begun.made
    (usable_of_find found)
  rw [course] at found
  exact (arrives_of_walk found).downwards inside (begun.bare tree built)

theorem Begun.makeFolder (trimmed : openEnd path = path) (done : after.makeFolder base path = .ok made) :
    Begun disk made base path above rest here last := by
  refine ⟨begun.names, begun.absolute, begun.unclosed, begun.vacant, (makeFolder_built done).kept _ _ begun.made, ?_⟩
  intro inside location came
  by_cases early : after.get? location = disk.get? location
  · obtain ⟨folder, name, asked, found, rfl⟩ := find_of_makeFolder done
    rw [trimmed] at found
    have spot : location = folder ++ [name] := by
      by_contra other
      exact came ((get?_put_of_ne _ _ _ _ other).trans early)
    rcases begun.find_cases tree built inside found with ⟨taken, -⟩ | ⟨_, _, free, same⟩
    · cases taken
    · injection free with sameFolder sameName _
      subst sameFolder sameName
      exact ⟨core rest, List.prefix_refl _, spot.trans same⟩
  · exact begun.within inside location early

end Descent

end Disk

end PipDriver
