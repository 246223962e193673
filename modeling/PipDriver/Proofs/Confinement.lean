import Mathlib.Data.List.Infix
import PipDriver.Cache.Basic
import PipDriver.Proofs.Components

/-!
URIs lead down. What a URI adds to a folder is names only, and the same names to every folder; what could lead out
of the folder is not accepted.
-/

namespace PipDriver

open Bytes (slash dot)

namespace Path

def Component.onTo (before : List Component) : Component → List Component
  | .root => [.root]
  | .current => before
  | .name bytes => before ++ [.name bytes]
  | .parent =>
    match before.getLast? with
    | some (.name _) => before.dropLast
    | some .root => before
    | _ => before ++ [.parent]

/-- What is left of a path when its dots are taken out, without a look at a disk. -/
def settled (path : Path) : List Component := path.components.foldl Component.onTo []

theorem settled_names (before : List Component) (names : List Bytes) :
    (names.map .name).foldl Component.onTo before = before ++ names.map .name := by
  induction names generalizing before with
  | nil => simp
  | cons name rest ih => simp [Component.onTo, ih]

structure GoesDown (folder path : Path) (names : List Bytes) : Prop where
  components : path.components = folder.components ++ names.map .name
  inside : folder.settled <+: path.settled

theorem goesDown_join {folder rest : Path} (given : folder.isEmpty = false) (relative : rest.isAbsolute = false)
    (inside : [dot, dot] ∉ Text.fields slash rest.bytes) :
    GoesDown folder (folder.join rest) (naming (Text.fields slash rest.bytes)) := by
  have components := components_join given relative
  rw [filterMap_inside inside] at components
  refine ⟨components, ?_⟩
  rw [settled, settled, components, List.foldl_append, settled_names]
  exact List.prefix_append _ _

end Path

namespace Cache

structure Downward (rest : Text) : Prop where
  given : rest ≠ []
  relative : rest.head? ≠ some '/'
  inside : ['.', '.'] ∉ Text.fields '/' rest

theorem Downward.of_bytes_iff (rest : Text) : Downward rest ↔
    rest ≠ [] ∧ rest.encoded.head? ≠ some slash ∧ [dot, dot] ∉ Text.fields slash rest.encoded := by
  have begins : rest.encoded.head? = some slash ↔ rest.head? = some '/' :=
    Text.head?_encoded_iff (show '/'.toNat < 128 by decide) rest
  have rises : [dot, dot] ∈ Text.fields slash rest.encoded ↔ ['.', '.'] ∈ Text.fields '/' rest := by
    have dots : Text.encoded ['.', '.'] = [dot, dot] := by decide
    rw [Text.fields_slash_encoded, ← dots]
    exact List.mem_map_of_injective Text.encoded_injective
  rw [ne_eq (List.head? _), begins, rises]
  exact ⟨fun down => ⟨down.given, down.relative, down.inside⟩, fun ⟨given, relative, inside⟩ => ⟨given, relative, inside⟩⟩

theorem beginning_staysInside_iff (bytes : Bytes) :
    (Path.beginning bytes).all staysInside = true ↔ bytes.head? ≠ some slash := by
  have begins := Path.leads bytes
  unfold Path.beginning
  generalize Path.lead bytes = start at begins ⊢
  cases begins with
  | root _ => exact iff_of_false (by decide) fun other => other rfl
  | dot => exact iff_of_true (by decide) (by decide)
  | dotSlash _ => exact iff_of_true (by decide) (by simp)
  | none relative => simpa using relative

theorem segments_stayInside_iff (fields : List Bytes) :
    (fields.filterMap Path.segmentComponent).all staysInside = true ↔ [dot, dot] ∉ fields := by
  constructor
  · intro stay member
    have component : Path.Component.parent ∈ fields.filterMap Path.segmentComponent :=
      List.mem_filterMap.mpr ⟨[dot, dot], member, by decide⟩
    exact absurd (List.all_eq_true.mp stay _ component) (by decide)
  · intro inside
    simp [Path.filterMap_inside inside, staysInside]

theorem relative_eq_ok_iff {uri : Text} {path : Path} :
    relative uri = .ok path ↔ ∃ rest, uri = remoteScheme ++ rest ∧ path = .mk rest ∧ Downward rest := by
  unfold relative
  split
  · rename_i other
    constructor
    · intro impossible
      cases impossible
    · rintro ⟨rest, rfl, -⟩
      rw [List.isPrefixOf?_eq_some_iff_append_eq.mpr rfl] at other
      cases other
  · rename_i bare
    constructor
    · intro impossible
      cases impossible
    · rintro ⟨rest, rfl, -, down⟩
      rw [List.isPrefixOf?_eq_some_iff_append_eq.mpr rfl, Option.some.injEq] at bare
      exact (down.given bare).elim
  · rename_i rest given found
    obtain rfl := List.isPrefixOf?_eq_some_iff_append_eq.mp found
    have stays : (Path.mk rest).components.all staysInside = true ↔ Downward rest := by
      rw [Path.components_eq, List.all_append, Bool.and_eq_true, beginning_staysInside_iff, segments_stayInside_iff,
        Downward.of_bytes_iff]
      exact ⟨fun inside => ⟨given, inside⟩, fun down => down.2⟩
    constructor
    · intro accepted
      split at accepted
      · rename_i inside
        exact ⟨rest, rfl, (Except.ok.inj accepted).symm, stays.mp inside⟩
      · cases accepted
    · rintro ⟨other, same, rfl, down⟩
      obtain rfl := List.append_cancel_left same
      rw [if_pos (stays.mpr down)]

theorem Downward.isAbsolute {rest : Text} (down : Downward rest) : (Path.mk rest).isAbsolute = false := by
  have relative := ((Downward.of_bytes_iff rest).mp down).2.1
  rw [Path.isAbsolute, Bytes.startsWith, Path.mk]
  generalize rest.encoded = bytes at relative
  cases bytes with
  | nil => rfl
  | cons first others =>
      have other : slash ≠ first := fun same => relative (congrArg some same.symm)
      simp [List.isPrefixOf, other]

def namesOf (uri : Text) : List Bytes := Path.naming (Text.fields slash (Text.encoded (uri.drop remoteScheme.length)))

theorem namesOf_append (rest : Text) :
    namesOf (remoteScheme ++ rest) = Path.naming (Text.fields slash rest.encoded) := by
  rw [namesOf, List.drop_left]

section Below

variable {folder path : Path} {uri rest : Text} (given : folder.isEmpty = false)
include given

theorem below_goesDown (down : Downward rest) : ∃ path, below folder (remoteScheme ++ rest) = .ok path ∧
    Path.GoesDown folder path (Path.naming (Text.fields slash rest.encoded)) := by
  have accepted : relative (remoteScheme ++ rest) = .ok (.mk rest) := relative_eq_ok_iff.mpr ⟨rest, rfl, rfl, down⟩
  have inside := ((Downward.of_bytes_iff rest).mp down).2.2
  exact ⟨folder.join (.mk rest), by simp [below, accepted], Path.goesDown_join given down.isAbsolute inside⟩

theorem goesDown_of_below (placed : below folder uri = .ok path) : Path.GoesDown folder path (namesOf uri) := by
  cases named : relative uri with
  | error cause => simp [below, named] at placed
  | ok rest =>
      obtain ⟨rest, rfl, -, down⟩ := relative_eq_ok_iff.mp named
      obtain ⟨other, again, goes⟩ := below_goesDown given down
      obtain rfl := Except.ok.inj (placed.symm.trans again)
      rwa [namesOf_append]

end Below

/-- A URI is accepted just if nothing in it could lead out of a folder, and then it goes down by its segments alone,
from both folders; so two URIs that meet in one of them meet in the other. -/
theorem uris_lead_down (cache : Cache) (rooted : cache.root.isEmpty = false) (kept : cache.folder.isEmpty = false) :
    (∀ uri, (∃ path, relative uri = .ok path) ↔ ∃ rest, uri = remoteScheme ++ rest ∧ Downward rest) ∧
    (∀ rest, Downward rest → ∃ resource copy,
      cache.resourcePath (remoteScheme ++ rest) = .ok resource ∧ cache.copyPath (remoteScheme ++ rest) = .ok copy ∧
      Path.GoesDown cache.root resource (Path.naming (Text.fields slash rest.encoded)) ∧
      Path.GoesDown cache.folder copy (Path.naming (Text.fields slash rest.encoded))) ∧
    ∀ uri other resource copy otherResource otherCopy,
      cache.resourcePath uri = .ok resource → cache.copyPath uri = .ok copy →
      cache.resourcePath other = .ok otherResource → cache.copyPath other = .ok otherCopy →
      (copy.components = otherCopy.components ↔ resource.components = otherResource.components) := by
  refine ⟨fun uri => ?_, fun rest down => ?_, ?_⟩
  · constructor
    · rintro ⟨path, accepted⟩
      obtain ⟨rest, same, -, down⟩ := relative_eq_ok_iff.mp accepted
      exact ⟨rest, same, down⟩
    · rintro ⟨rest, same, down⟩
      exact ⟨.mk rest, relative_eq_ok_iff.mpr ⟨rest, same, rfl, down⟩⟩
  · obtain ⟨resource, upstream, fromRoot⟩ := below_goesDown rooted down
    obtain ⟨copy, placed, fromFolder⟩ := below_goesDown kept down
    exact ⟨resource, copy, upstream, placed, fromRoot, fromFolder⟩
  · intro uri other resource copy otherResource otherCopy upstream placed otherUpstream otherPlaced
    rw [(goesDown_of_below kept placed).components, (goesDown_of_below kept otherPlaced).components,
      (goesDown_of_below rooted upstream).components, (goesDown_of_below rooted otherUpstream).components,
      List.append_right_inj, List.append_right_inj]

def crookedCache : Cache where
  root := "/srv/"
  folder := "./kept"

theorem uris_lead_down_crooked : ∃ resource copy,
    crookedCache.resourcePath "salt://./a//..b/." = .ok resource ∧ crookedCache.copyPath "salt://./a//..b/." = .ok copy ∧
    resource.components = [.root, .name "srv", .name "a", .name "..b"] ∧
    copy.components = [.current, .name "kept", .name "a", .name "..b"] := by
  have down : Downward "./a//..b/." := ⟨by decide, by decide, by decide⟩
  obtain ⟨resource, copy, upstream, placed, fromRoot, fromFolder⟩ :=
    (uris_lead_down crookedCache (by decide) (by decide)).2.1 "./a//..b/." down
  exact ⟨resource, copy, upstream, placed, fromRoot.components, fromFolder.components⟩

end Cache

end PipDriver
