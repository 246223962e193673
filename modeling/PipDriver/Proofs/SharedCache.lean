import Mathlib.Logic.Relation
import PipDriver.Proofs.Acquisition
import PipDriver.Proofs.Confinement
import PipDriver.Strand.Acquire

/-!
Several who acquire files through one cache at the same time: what they share, where their copies and resources
lie, and what is taken for granted about the world that they start from.
-/

namespace PipDriver

open Bytes (slash dot)

open Disk

theorem Cache.inside_of_relative {uri : Text} {relative : Path} (named : Cache.relative uri = .ok relative) :
    relative.isAbsolute = false ∧ [dot, dot] ∉ relative.route.names ∧ relative.bytes ≠ [] := by
  obtain ⟨rest, -, rfl, down⟩ := Cache.relative_eq_ok_iff.mp named
  obtain ⟨given, -, inside⟩ := (Cache.Downward.of_bytes_iff rest).mp down
  exact ⟨down.isAbsolute, fun member => inside (List.mem_of_mem_filter member), mt Text.encoded_eq_nil_iff.mp given⟩

structure Company where
  cache : Cache
  start : World
  uris : List Text

namespace Company

section Places

variable (company : Company)

def base : Location := company.start.host.folder

def home : Location := company.cache.folder.spot company.base

def source : Location := company.cache.root.spot company.base

def copy (relative : Path) : Path := company.cache.folder.join relative

def resource (relative : Path) : Path := company.cache.root.join relative

def Asked (relative : Path) : Prop := ∃ uri ∈ company.uris, Cache.relative uri = .ok relative

/-- The names on the paths of the copies that are asked for. -/
def wanted : List Bytes :=
  company.uris.flatMap fun uri => match company.cache.copyPath uri with
    | .ok copy => copy.route.names
    | .error _ => []

def Wants (name : Bytes) : Prop := name ∈ company.wanted

/-- What the world is like at the start: there are no links, what lies on the disk lies in folders, the working
folder is where its path leads, the resources and the cache lie apart, and no copy that is there already has the
digest of another content upstream. -/
structure Settled : Prop where
  named : ∀ uri ∈ company.uris, ∃ relative, Cache.relative uri = .ok relative
  linkFree : company.start.disk.LinkFree
  tree : company.start.disk.Tree
  sited : company.start.disk.folderAt [] company.start.host.workingPath = .ok company.start.host.folder
  apart : ¬company.source <+: company.home ∧ ¬company.home <+: company.source
  told : ∀ relative, company.Asked relative → ∀ old bytes,
    company.start.disk.bytesAt ((company.copy relative).spot company.base) = some old →
    company.start.contents? (company.resource relative) = some bytes →
    Digest.ofBytes bytes = Digest.ofBytes old → bytes = old

structure Fetchable (relative : Path) (bytes : ByteArray) : Prop where
  asked : company.Asked relative
  upstream : company.start.contents? (company.resource relative) = some bytes

end Places

section Joined

variable (base : Location) (folder : Path) {relative : Path}

theorem join_startOf (inside : relative.isAbsolute = false) :
    startOf base (folder.join relative) = startOf base folder := by
  rw [startOf, startOf, (Path.route_join_relative folder inside).2]

theorem join_spot (inside : relative.isAbsolute = false) (within : [dot, dot] ∉ relative.route.names) :
    (folder.join relative).spot base = folder.spot base ++ core relative.route.names := by
  rw [Path.spot, join_startOf base folder inside, (Path.route_join_relative folder inside).1, reach_append,
    reach_inside _ within]
  rfl

theorem join_ways {front : List Bytes} {last : Bytes} (inside : relative.isAbsolute = false)
    (split : relative.route.names = front ++ [last]) :
    (folder.join relative).ways base =
      stops (startOf base folder) folder.route.names ++ stops (folder.spot base) front := by
  rw [Path.ways, join_startOf base folder inside, (Path.route_join_relative folder inside).1, split,
    ← List.append_assoc, List.dropLast_concat, stops_append]
  rfl

theorem names_ne_nil {path : Path} (inside : path.isAbsolute = false) (given : path.bytes ≠ []) :
    path.route.names ≠ [] := by
  obtain ⟨bytes⟩ := path
  obtain ⟨first, rest, rfl⟩ := List.exists_cons_of_ne_nil given
  have other : first ≠ slash := by
    rintro rfl
    cases inside
  obtain ⟨field, others, pieces⟩ := List.exists_cons_of_ne_nil (Text.fields_ne_nil slash rest)
  simp [Path.route, Route.ofBytes, Text.fields, other, pieces]

end Joined

section Shapes

variable {company : Company} {relative other : Path} {bytes : ByteArray}

theorem Asked.inside (asked : company.Asked relative) :
    relative.isAbsolute = false ∧ [dot, dot] ∉ relative.route.names ∧ relative.bytes ≠ [] := by
  obtain ⟨uri, -, named⟩ := asked
  exact Cache.inside_of_relative named

theorem Asked.copy_spot (asked : company.Asked relative) :
    (company.copy relative).spot company.base = company.home ++ core relative.route.names :=
  join_spot _ _ asked.inside.1 asked.inside.2.1

theorem Asked.resource_spot (asked : company.Asked relative) :
    (company.resource relative).spot company.base = company.source ++ core relative.route.names :=
  join_spot _ _ asked.inside.1 asked.inside.2.1

theorem Asked.split (asked : company.Asked relative) : ∃ front last, relative.route.names = front ++ [last] ∧
    [dot, dot] ∉ front ∧
    (company.copy relative).ways company.base =
      stops (startOf company.base company.cache.folder) company.cache.folder.route.names ++
        stops company.home front ∧
    (company.resource relative).ways company.base =
      stops (startOf company.base company.cache.root) company.cache.root.route.names ++
        stops company.source front := by
  obtain ⟨absolute, within, given⟩ := asked.inside
  obtain ⟨front, last, split⟩ := (List.eq_nil_or_concat relative.route.names).resolve_left
    (names_ne_nil absolute given)
  rw [List.concat_eq_append] at split
  refine ⟨front, last, split, fun member => within ?_, join_ways _ _ absolute split, join_ways _ _ absolute split⟩
  rw [split]
  exact List.mem_append_left _ member

theorem Asked.wants_of_copy (asked : company.Asked relative) {name : Bytes}
    (member : name ∈ (company.copy relative).route.names) : company.Wants name := by
  obtain ⟨uri, among, named⟩ := asked
  refine List.mem_flatMap.mpr ⟨uri, among, ?_⟩
  rw [Cache.copyPath_eq named]
  exact member

theorem Asked.wants (asked : company.Asked relative) {name : Bytes} (member : name ∈ relative.route.names) :
    company.Wants name := by
  refine asked.wants_of_copy ?_
  rw [copy, (Path.route_join_relative _ asked.inside.1).1]
  exact List.mem_append_right _ member

theorem Settled.start_contents (settled : company.Settled) {path : Path} :
    company.start.contents? path = some bytes ↔
      path.Fit ∧ (∀ way ∈ path.ways company.base, company.start.disk.get? way = some .folder) ∧
        company.start.disk.bytesAt (path.spot company.base) = some bytes :=
  Path.contents?_iff settled.linkFree

/-- What is a file upstream has a name of its own, which may stand last on the path of a copy. -/
theorem Fetchable.names (settled : company.Settled) (fetchable : company.Fetchable relative bytes) :
    (∃ last, (company.copy relative).route.names.getLast? = some last ∧ Plain last ∧
      relative.route.names.getLast? = some last) ∧
    (company.copy relative).route.closed = false ∧
    ∀ name ∈ relative.route.names, ¬longestName < name.length := by
  obtain ⟨absolute, within, given⟩ := fetchable.asked.inside
  obtain ⟨front, last, split, -⟩ := fetchable.asked.split
  obtain ⟨fit, -⟩ := settled.start_contents.mp fetchable.upstream
  have names := (Path.route_join_relative company.cache.root absolute).1
  obtain ⟨final, there, plain⟩ := fit.last
  have same : last = final := by
    rw [resource, names, split, ← List.append_assoc, List.getLast?_concat] at there
    exact Option.some.inj there
  subst same
  refine ⟨⟨last, ?_, plain, by simp [split]⟩, ?_, ?_⟩
  · rw [copy, (Path.route_join_relative company.cache.folder absolute).1, split, ← List.append_assoc,
      List.getLast?_concat]
  · rw [copy, Path.route_join_closed _ given, ← Path.route_join_closed company.cache.root given]
    exact fit.unclosed
  · intro name member
    refine fit.short name ?_
    rw [resource, names]
    exact List.mem_append_right _ member

/-- Upstream no file is also a folder, so the spot of a copy is on the way to another copy only if it is on the way
to the cache itself. -/
theorem Fetchable.apart (settled : company.Settled) {more : ByteArray}
    (fetchable : company.Fetchable relative bytes) (second : company.Fetchable other more)
    (blocks : (company.copy relative).spot company.base ∈ (company.copy other).ways company.base) :
    (company.copy relative).spot company.base ∈ (company.copy relative).ways company.base := by
  obtain ⟨front, last, split, inside, ways, through⟩ := second.asked.split
  obtain ⟨-, folders, -⟩ := settled.start_contents.mp second.upstream
  obtain ⟨-, -, held⟩ := settled.start_contents.mp fetchable.upstream
  obtain ⟨_, _, -, -, own, -⟩ := fetchable.asked.split
  rw [ways] at blocks
  rcases List.mem_append.mp blocks with early | late
  · rw [own]
    exact List.mem_append_left _ early
  · rw [fetchable.asked.copy_spot] at late
    obtain ⟨part, some_, starts, same⟩ := (mem_stops_inside company.home inside).mp late
    rw [List.append_cancel_left_eq] at same
    have folder := folders (company.source ++ part) (by
      rw [through]
      exact List.mem_append_right _ ((mem_stops_inside company.source inside).mpr ⟨part, some_, starts, rfl⟩))
    rw [fetchable.asked.resource_spot, same, bytesAt, folder] at held
    cases held

end Shapes

end Company

end PipDriver
