import PipDriver.Host.Standard
import PipDriver.Proofs.AcquiringAlone
import PipDriver.Proofs.Trees

/-!
Acquiring one file after the other through a cache that starts empty, while what is upstream changes in between.
Copies are never removed, so that one that was made earlier may be in the way of another: a file where a folder is
wanted, or a folder where a file is.
-/

namespace PipDriver

open Disk

namespace Company

def one (cache : Cache) (world : World) (uri : Text) : Company where
  cache := cache
  start := world
  uris := [uri]

variable {company : Company} {relative : Path} {bytes : ByteArray} {stop : Location}

/-- The folders of a copy are those on the way to the cache, and those in the cache above the copy. -/
theorem Fetchable.mem_ways (settled : company.Settled) (fetchable : company.Fetchable relative bytes) :
    stop ∈ (company.copy relative).ways company.base ↔
      stop ∈ stops (startOf company.base company.cache.folder) company.cache.folder.route.names ∨
      ∃ part, part ≠ [] ∧ part <+: core relative.route.names ∧ part ≠ core relative.route.names ∧
        stop = company.home ++ part := by
  obtain ⟨front, last, split, inside, ways, -⟩ := fetchable.asked.split
  obtain ⟨⟨final, -, plain, there⟩, -⟩ := fetchable.names settled
  rw [split, List.getLast?_concat, Option.some.injEq] at there
  have whole : core relative.route.names = core front ++ [last] := by
    simp [split, core, there, plain.notDot]
  rw [ways, List.mem_append, mem_stops_inside company.home inside, whole]
  constructor
  · rintro (early | ⟨part, given, starts, rfl⟩)
    · exact Or.inl early
    · refine Or.inr ⟨part, given, starts.trans (List.prefix_append _ _), ?_, rfl⟩
      rintro rfl
      have length := starts.length_le
      simp at length
  · rintro (early | ⟨part, given, starts, other, rfl⟩)
    · exact Or.inl early
    · exact Or.inr ⟨part, given, (List.prefix_concat_iff.mp starts).resolve_left other, rfl⟩

theorem Obtained.standing {held : Option Location} {world : World} {answer : Except Failure (Option Path)}
    (obtained : company.Obtained relative held world answer) : company.Standing world := by
  cases obtained <;> assumption

/-- The working folder is where it was, whatever was acquired. -/
theorem Standing.sited {world : World} (settled : company.Settled) (standing : company.Standing world) :
    world.disk.folderAt [] company.start.host.workingPath = .ok company.base := by
  obtain ⟨clear, leads⟩ := settled.sited_clear
  have usable : pathFault? company.start.host.workingPath = none := by
    have sited := settled.sited
    unfold folderAt at sited
    split at sited
    · rename_i found
      exact usable_of_find found
    · cases sited
    · cases sited
    · cases sited
  have outset : startOf [] company.start.host.workingPath = [] := by
    unfold startOf
    split <;> rfl
  have still : Clear world.disk [] company.start.host.workingPath.route.names :=
    ⟨fun stop member => standing.sound.folder (clear.folders stop member), clear.short⟩
  have found : world.disk.find [] company.start.host.workingPath = .ok (.occupied company.base .folder) := by
    rw [find_eq_walk usable, outset, ← List.append_nil company.start.host.workingPath.route.names, walk_clear still,
      walk_nil, leads]
  simp [folderAt, found]

end Company

namespace Cache

/-- One of these names something below the other. -/
def Clash (one other : Path) : Prop :=
  core one.route.names ≠ core other.route.names ∧
    (core one.route.names <+: core other.route.names ∨ core other.route.names <+: core one.route.names)

section Definitions

variable (cache : Cache)

structure Apart (base : Location) : Prop where
  roots : ¬cache.root.spot base <+: cache.folder.spot base ∧ ¬cache.folder.spot base <+: cache.root.spot base
  way : ∀ stop ∈ stops (startOf base cache.folder) cache.folder.route.names, ¬cache.root.spot base <+: stop ∧
    (cache.folder.spot base <+: stop → stop = cache.folder.spot base)

structure Ready (world : World) (uri : Text) (relative : Path) : Prop where
  named : Cache.relative uri = .ok relative
  drawn : (Company.one cache world uri).Drawn world
  fit : ∀ bytes, world.contents? (cache.root.join relative) = some bytes → (cache.folder.join relative).Fit
  roomy : ∀ number < 1000000, pathFault? ((Company.one cache world uri).temporary relative number) = none
  told : ∀ old bytes, world.disk.bytesAt ((cache.folder.join relative).spot world.host.folder) = some old →
    world.contents? (cache.root.join relative) = some bytes →
    Digest.ofBytes bytes = Digest.ofBytes old → bytes = old

structure Ground (world : World) : Prop where
  linkFree : world.disk.LinkFree
  tree : world.disk.Tree
  sited : world.disk.folderAt [] world.host.workingPath = .ok world.host.folder
  apart : cache.Apart world.host.folder
  firm : Firm world.disk (stops (startOf world.host.folder cache.folder) cache.folder.route.names)

inductive History (first : World) : List Path → World → Prop
  | start : History first [] first
  /-- Anything may happen to what is upstream, and nothing to what lies elsewhere. -/
  | upstream {given : List Path} {before : World} (history : History first given before) (disk : Disk)
      (outside : ∀ location, ¬cache.root.spot before.host.folder <+: location →
        disk.get? location = before.disk.get? location)
      (ground : cache.Ground { before with disk }) : History first given { before with disk }
  | drawing {given : List Path} {before : World} (history : History first given before) (number : Nat) :
      History first given (Scene.drawing before number)
  | acquire {given : List Path} {before : World} {uri : Text} {relative : Path}
      (history : History first given before) (ready : cache.Ready before uri relative) :
      History first
        (match (cache.acquire (.remote uri) before).1 with
          | .ok (some _) => relative :: given
          | _ => given)
        (cache.acquire (.remote uri) before).2

structure Holds (given : List Path) (world : World) : Prop where
  copies : ∀ earlier ∈ given, core earlier.route.names ≠ [] ∧
    ∃ file, world.disk.get? (cache.folder.spot world.host.folder ++ core earlier.route.names) = some (.file file)
  nothingElse : ∀ names, names ≠ [] → world.disk.get? (cache.folder.spot world.host.folder ++ names) ≠ none →
    ∃ earlier ∈ given, names <+: core earlier.route.names

end Definitions

variable {cache : Cache} {first world : World} {given : List Path} {uri : Text} {relative : Path} {bytes : ByteArray}

theorem Ready.asked (ready : cache.Ready world uri relative) : (Company.one cache world uri).Asked relative :=
  ⟨uri, List.mem_singleton_self uri, ready.named⟩

theorem Ready.only {other : Path} (ready : cache.Ready world uri relative)
    (asked : (Company.one cache world uri).Asked other) : other = relative := by
  obtain ⟨among, member, named⟩ := asked
  obtain rfl := List.mem_singleton.mp member
  exact Except.ok.inj (named.symm.trans ready.named)

theorem Ground.settled (ground : cache.Ground world) (ready : cache.Ready world uri relative) :
    (Company.one cache world uri).Settled where
  named := by
    intro other member
    obtain rfl := List.mem_singleton.mp member
    exact ⟨relative, ready.named⟩
  linkFree := ground.linkFree
  tree := ground.tree
  sited := ground.sited
  apart := ground.apart.roots
  told := by
    intro other asked old bytes
    obtain rfl := ready.only asked
    exact ready.told old bytes

section Blocked

variable (ground : cache.Ground world) (holds : cache.Holds given world) (ready : cache.Ready world uri relative)
  (upstream : world.contents? (cache.root.join relative) = some bytes)
include ground holds ready upstream

theorem Holds.passable (clear : ∀ earlier ∈ given, ¬Clash earlier relative) :
    (Company.one cache world uri).Passable relative := by
  have settled := ground.settled ready
  have fetchable : (Company.one cache world uri).Fetchable relative bytes := ⟨ready.asked, upstream⟩
  have below := fetchable.core_ne_nil settled
  have spot := fetchable.asked.copy_spot
  refine ⟨ready.fit bytes upstream, ?_, ?_, ?_, ready.roomy⟩
  · intro stop on
    rcases (fetchable.mem_ways settled).mp on with early | ⟨part, some_, starts, other, rfl⟩
    · exact ground.firm stop early
    · by_cases absent : world.disk.get? (cache.folder.spot world.host.folder ++ part) = none
      · exact Or.inl absent
      · obtain ⟨earlier, among, rest, whole⟩ := holds.nothingElse part some_ absent
        obtain ⟨-, file, there⟩ := holds.copies earlier among
        refine Or.inr (ground.tree.folder_above _ rest ?_ ?_)
        · rintro rfl
          rw [List.append_nil] at whole
          exact clear earlier among ⟨whole ▸ other, Or.inl (whole ▸ starts)⟩
        · rw [← whole, ← List.append_assoc] at there
          have present : world.disk.get? (cache.folder.spot world.host.folder ++ part ++ rest) ≠ none := by
            rw [there]
            exact Option.some_ne_none _
          exact present
  · intro on
    rw [spot] at on
    rcases (fetchable.mem_ways settled).mp on with early | ⟨part, -, -, other, same⟩
    · have home := (ground.apart.way _ early).2 (List.prefix_append _ _)
      exact below (List.append_right_eq_self.mp home)
    · exact other (List.append_cancel_left same).symm
  · intro folder
    rw [spot] at folder
    have present : world.disk.get? (cache.folder.spot world.host.folder ++ core relative.route.names) ≠ none := by
      intro absent
      exact absurd (absent.symm.trans folder) (by simp)
    obtain ⟨earlier, among, starts⟩ := holds.nothingElse _ below present
    obtain ⟨-, file, there⟩ := holds.copies earlier among
    by_cases same : core earlier.route.names = core relative.route.names
    · rw [same] at there
      exact absurd (folder.symm.trans there) (by simp)
    · exact clear earlier among ⟨same, Or.inr starts⟩

/-- What clashes with a copy that is there cannot be stored, and is not there. -/
theorem Holds.blocked {earlier : Path} (among : earlier ∈ given) (clash : Clash earlier relative) :
    ¬(Company.one cache world uri).Passable relative ∧ world.contents? (cache.folder.join relative) ≠ some bytes := by
  have settled := ground.settled ready
  have fetchable : (Company.one cache world uri).Fetchable relative bytes := ⟨ready.asked, upstream⟩
  have spot := fetchable.asked.copy_spot
  obtain ⟨some_, file, there⟩ := holds.copies earlier among
  obtain ⟨differ, above | below⟩ := clash
  · have on := (fetchable.mem_ways settled).mpr (Or.inr ⟨_, some_, above, differ, rfl⟩)
    constructor
    · intro passable
      rcases passable.firm _ on with absent | folder
      · exact absurd (absent.symm.trans there) (by simp)
      · exact absurd (folder.symm.trans there) (by simp)
    · intro fresh
      have folder := (settled.start_contents.mp fresh).2.1 _ on
      exact absurd (folder.symm.trans there) (by simp)
  · obtain ⟨rest, whole⟩ := below
    have folder : world.disk.get? (cache.folder.spot world.host.folder ++ core relative.route.names) = some .folder := by
      refine ground.tree.folder_above _ rest ?_ ?_
      · rintro rfl
        rw [List.append_nil] at whole
        exact differ whole.symm
      · rw [List.append_assoc, whole, there]
        simp
    constructor
    · intro passable
      exact passable.proper (spot ▸ folder)
    · intro fresh
      have given_ : (Company.one cache world uri).start.contents? ((Company.one cache world uri).copy relative) =
          some bytes := fresh
      have held := (settled.start_contents.mp given_).2.2
      rw [spot] at held
      obtain ⟨old, at_, -⟩ := bytesAt_eq_some_iff.mp held
      exact absurd (folder.symm.trans at_) (by simp)

end Blocked

theorem holds_nothing (empty : ∀ names, names ≠ [] →
    world.disk.get? (cache.folder.spot world.host.folder ++ names) = none) : cache.Holds [] world where
  copies := fun _ impossible => nomatch impossible
  nothingElse := fun names some_ present => (present (empty names some_)).elim

theorem Holds.upstream {disk : Disk} (holds : cache.Holds given world) (apart : cache.Apart world.host.folder)
    (outside : ∀ location, ¬cache.root.spot world.host.folder <+: location →
      disk.get? location = world.disk.get? location) : cache.Holds given { world with disk } := by
  have same : ∀ names, disk.get? (cache.folder.spot world.host.folder ++ names) =
      world.disk.get? (cache.folder.spot world.host.folder ++ names) := by
    intro names
    refine outside _ fun under => ?_
    rcases List.prefix_or_prefix_of_prefix under (List.prefix_append _ names) with first | second
    · exact apart.roots.1 first
    · exact apart.roots.2 second
  constructor
  · intro earlier among
    rw [same]
    exact holds.copies earlier among
  · intro names some_ present
    rw [same] at present
    exact holds.nothingElse names some_ present

section Acquired

variable (ground : cache.Ground world) (holds : cache.Holds given world) (ready : cache.Ready world uri relative)
include ground ready

theorem Ground.obtained : (Company.one cache world uri).Obtained relative none (cache.acquire (.remote uri) world).2
      (cache.acquire (.remote uri) world).1 ∧
    (cache.acquire (.remote uri) world).2.host = world.host ∧
    ∀ location, (Company.one cache world uri).Loose location →
      (cache.acquire (.remote uri) world).2.disk.get? location = none :=
  Company.obtained_alone (ground.settled ready) ready.asked ready.named ready.drawn

theorem Ground.acquire : cache.Ground (cache.acquire (.remote uri) world).2 := by
  have settled := ground.settled ready
  obtain ⟨obtained, host, lone⟩ := ground.obtained ready
  have standing := obtained.standing
  have root : world.disk.get? world.host.folder = some .folder := by
    obtain ⟨clear, leads⟩ := settled.sited_clear
    have folder := ground.tree.reach (get?_root world.disk) clear.folders
    rw [leads] at folder
    exact folder
  refine ⟨standing.linkFree settled, acquire_tree ground.linkFree ground.tree root ready.named, ?_, ?_, ?_⟩
  · rw [host]
    exact standing.sited settled
  · rw [host]
    exact ground.apart
  · rw [host]
    intro stop on
    cases standing.sound stop with
    | kept same => exact same ▸ ground.firm stop on
    | way _ made => exact Or.inr made
    | stored fetchable _ spot =>
        obtain rfl := ready.only fetchable.asked
        rw [fetchable.asked.copy_spot] at spot
        have home := (ground.apart.way stop on).2 ⟨_, spot.symm⟩
        have none_ := List.append_right_eq_self.mp (spot.symm.trans home)
        exact (fetchable.core_ne_nil settled none_).elim
    | loose loose => exact Or.inl (lone stop loose)

/-- What an acquisition does to the cache: folders are made above the copy, and the copy is put below them. -/
theorem Ground.after_acquire (names : List Bytes) (some_ : names ≠ []) :
    let after := (cache.acquire (.remote uri) world).2.disk
    let location := cache.folder.spot world.host.folder ++ names
    after.get? location = world.disk.get? location ∨
    (∃ bytes, world.contents? (cache.root.join relative) = some bytes) ∧
      ((names <+: core relative.route.names ∧ names ≠ core relative.route.names ∧
        world.disk.get? location = none) ∨
      (names = core relative.route.names ∧ (Company.one cache world uri).Passable relative ∧
        ∃ file, after.get? location = some (.file file))) := by
  intro after location
  obtain ⟨obtained, -, lone⟩ := ground.obtained ready
  cases obtained.standing.sound location with
  | kept same => exact Or.inl same
  | way absent made fetchable on =>
      obtain rfl := ready.only fetchable.asked
      refine Or.inr ⟨⟨_, fetchable.upstream⟩, Or.inl ?_⟩
      rcases (fetchable.mem_ways (ground.settled ready)).mp on with early | ⟨part, -, starts, other, same⟩
      · have home := (ground.apart.way location early).2 (List.prefix_append _ _)
        exact (some_ (List.append_right_eq_self.mp home)).elim
      · obtain rfl := List.append_cancel_left same
        exact ⟨starts, other, absent⟩
  | stored fetchable passable spot held =>
      obtain rfl := ready.only fetchable.asked
      rw [fetchable.asked.copy_spot] at spot
      obtain ⟨file, there, -⟩ := bytesAt_eq_some_iff.mp held
      exact Or.inr ⟨⟨_, fetchable.upstream⟩, Or.inr ⟨List.append_cancel_left spot, passable, file, there⟩⟩
  | loose loose => exact Or.inl ((lone location loose).trans loose.absent.symm)

include holds

theorem Holds.copy_kept {earlier : Path} (among : earlier ∈ given) : ∃ file,
    (cache.acquire (.remote uri) world).2.disk.get?
      (cache.folder.spot world.host.folder ++ core earlier.route.names) = some (.file file) := by
  obtain ⟨some_, file, there⟩ := holds.copies earlier among
  rcases ground.after_acquire ready _ some_ with same | ⟨-, ⟨-, -, absent⟩ | ⟨-, -, copied⟩⟩
  · exact ⟨file, same.trans there⟩
  · exact absurd (absent.symm.trans there) (by simp)
  · exact copied

theorem Holds.of_given {path : Path} (ended : (cache.acquire (.remote uri) world).1 = .ok (some path)) :
    cache.Holds (relative :: given) (cache.acquire (.remote uri) world).2 := by
  have settled := ground.settled ready
  obtain ⟨obtained, host, -⟩ := ground.obtained ready
  constructor
  · intro earlier among
    rw [host]
    rcases List.mem_cons.mp among with rfl | before
    · rw [ended] at obtained
      cases obtained with
      | copied standing upstream there =>
          have fetchable : (Company.one cache world uri).Fetchable _ _ := ⟨ready.asked, upstream⟩
          rw [standing.contents?_eq, Path.contents?_iff (standing.linkFree settled)] at there
          obtain ⟨file, copied, -⟩ := bytesAt_eq_some_iff.mp (fetchable.asked.copy_spot ▸ there.2.2)
          exact ⟨fetchable.core_ne_nil settled, file, copied⟩
    · exact ⟨(holds.copies earlier before).1, holds.copy_kept ground ready before⟩
  · intro names some_ present
    rw [host] at present
    rcases ground.after_acquire ready names some_ with same | ⟨-, ⟨starts, -⟩ | ⟨rfl, -⟩⟩
    · rw [same] at present
      obtain ⟨earlier, before, starts⟩ := holds.nothingElse names some_ present
      exact ⟨earlier, List.mem_cons_of_mem _ before, starts⟩
    · exact ⟨relative, List.mem_cons_self, starts⟩
    · exact ⟨relative, List.mem_cons_self, List.prefix_rfl⟩

/-- An acquisition that gives nothing leaves nothing that was not there: what is in its way is above all the folders
that it could make, or has them above itself already. -/
theorem Holds.of_not_given (ended : ∀ path, (cache.acquire (.remote uri) world).1 ≠ .ok (some path)) :
    cache.Holds given (cache.acquire (.remote uri) world).2 := by
  obtain ⟨obtained, host, -⟩ := ground.obtained ready
  constructor
  · intro earlier among
    rw [host]
    exact ⟨(holds.copies earlier among).1, holds.copy_kept ground ready among⟩
  · intro names some_ present
    rw [host] at present
    rcases ground.after_acquire ready names some_ with same | ⟨⟨bytes, upstream⟩, made⟩
    · exact holds.nothingElse names some_ (same ▸ present)
    have blocked : ¬(Company.one cache world uri).Passable relative := by
      generalize (cache.acquire (.remote uri) world).1 = answer at obtained ended
      cases obtained with
      | missing _ none_ => exact absurd (none_.symm.trans upstream) (by simp)
      | copied _ _ _ => exact (ended _ rfl).elim
      | failed _ _ blocked _ => exact blocked
    rcases made with ⟨starts, -, -⟩ | ⟨-, passable, -⟩
    · obtain ⟨earlier, among, -, above | below⟩ : ∃ earlier ∈ given, Clash earlier relative := by
        by_contra clear
        refine blocked (holds.passable ground ready upstream fun earlier among clash => ?_)
        exact clear ⟨earlier, among, clash⟩
      · rcases List.prefix_or_prefix_of_prefix above starts with ⟨rest, rfl⟩ | within
        · by_cases last : rest = []
          · exact ⟨earlier, among, by simp [last]⟩
          · -- A folder below the copy would need a folder in the place of the copy.
            obtain ⟨file, there⟩ := holds.copy_kept ground ready among
            rw [← List.append_assoc] at present
            have folder := (ground.acquire ready).tree.folder_above _ rest last present
            exact absurd (folder.symm.trans there) (by simp)
        · exact ⟨earlier, among, within⟩
      · exact ⟨earlier, among, starts.trans below⟩
    · exact (blocked passable).elim

end Acquired

theorem History.holds (history : cache.History first given world) (ground : cache.Ground first)
    (empty : ∀ names, names ≠ [] → first.disk.get? (cache.folder.spot first.host.folder ++ names) = none) :
    cache.Ground world ∧ cache.Holds given world := by
  -- `Ground` lets each acquisition be looked at on its own; `Holds` says what the earlier ones have left to it.
  induction history with
  | start => exact ⟨ground, holds_nothing empty⟩
  | upstream _ disk outside later ih => exact ⟨later, ih.2.upstream ih.1.apart outside⟩
  | drawing _ number ih =>
      obtain ⟨before, holds⟩ := ih
      exact ⟨⟨before.linkFree, before.tree, before.sited, before.apart, before.firm⟩, holds.copies, holds.nothingElse⟩
  | acquire _ ready ih =>
      obtain ⟨before, holds⟩ := ih
      refine ⟨before.acquire ready, ?_⟩
      split
      · rename_i ended
        exact holds.of_given before ready ended
      · rename_i other
        exact holds.of_not_given before ready other

/-- Through a cache that started empty, what is upstream is given, unless a copy that was given earlier clashes with
it; then the acquisition fails. -/
theorem acquire_unless_clash (ground : cache.Ground first)
    (empty : ∀ names, names ≠ [] → first.disk.get? (cache.folder.spot first.host.folder ++ names) = none)
    (history : cache.History first given world) (ready : cache.Ready world uri relative)
    (upstream : world.contents? (cache.root.join relative) = some bytes) :
    ((∀ earlier ∈ given, ¬Clash earlier relative) →
      (cache.acquire (.remote uri) world).1 = .ok (some (cache.folder.join relative)) ∧
      (cache.acquire (.remote uri) world).2.contents? (cache.folder.join relative) = some bytes) ∧
    ((∃ earlier ∈ given, Clash earlier relative) → ∃ failure, (cache.acquire (.remote uri) world).1 = .error failure) := by
  obtain ⟨before, holds⟩ := history.holds ground empty
  obtain ⟨obtained, -, -⟩ := before.obtained ready
  constructor
  · intro clear
    have passable := holds.passable before ready upstream clear
    generalize cache.acquire (.remote uri) world = ended at obtained
    obtain ⟨answer, after⟩ := ended
    cases obtained with
    | missing _ none_ => exact absurd (none_.symm.trans upstream) (by simp)
    | copied _ there copied =>
        obtain rfl := Option.some.inj (there.symm.trans upstream)
        exact ⟨rfl, copied⟩
    | failed _ _ blocked _ => exact (blocked passable).elim
  · rintro ⟨earlier, among, clash⟩
    obtain ⟨blocked, stale⟩ := holds.blocked before ready upstream among clash
    cases ended : (cache.acquire (.remote uri) world).1 with
    | error failure => exact ⟨failure, rfl⟩
    | ok answer =>
        rcases Company.passable_of_acquire (before.settled ready) ready.asked ready.named upstream ended with
          passable | fresh
        · exact (blocked passable).elim
        · exact (stale fresh).elim

/-- What is acquired for the first time is ready, if its path and one temporary file have room. -/
theorem ready_of_new (named : Cache.relative uri = .ok relative) (drawn : (Company.one cache world uri).Drawn world)
    (fit : (cache.folder.join relative).Fit)
    (usable : pathFault? ((Company.one cache world uri).temporary relative 0) = none)
    (new : world.disk.bytesAt ((cache.folder.join relative).spot world.host.folder) = none) :
    cache.Ready world uri relative where
  named := named
  drawn := drawn
  fit := fun _ _ => fit
  roomy := fun _ few => Company.roomy_of_usable usable few
  told := fun _ _ there => absurd (new.symm.trans there) (by simp)

def renamingCache : Cache where
  root := "srv"
  folder := "cache"

def beforeRenaming : World where
  disk := { entries := [(["srv"], .folder), (["srv", "a"], .file { bytes := ⟨#[49]⟩ })] }
  host := { folder := [] }

def renamed : World :=
  ((renamingCache.acquire (.remote "salt://a") beforeRenaming).2.uproot "srv/a").plant "srv/a/b"
    (.file { bytes := ⟨#[50]⟩ })

/-- A regular file upstream that cannot be acquired, because of what an earlier acquisition left in the cache. -/
theorem acquire_behind_renamed :
    (renamingCache.acquire (.remote "salt://a") beforeRenaming).1 = .ok (some "cache/a") ∧
    renamed.contents? "srv/a/b" = some ⟨#[50]⟩ ∧
    (renamingCache.acquire (.remote "salt://a/b") renamed).1 = .error (.file "cache/a" .taken) := by
  decide +kernel

def afterRenaming : World where
  disk := { entries := [(["srv", "a", "b"], .file { bytes := ⟨#[50]⟩ }), (["srv", "a"], .folder),
    (["cache", "a"], .file { bytes := ⟨#[49]⟩ }), (["cache"], .folder), (["srv"], .folder)] }
  host := beforeRenaming.host
  events := (renamingCache.acquire (.remote "salt://a") beforeRenaming).2.events

theorem beforeRenaming_ground : renamingCache.Ground beforeRenaming where
  linkFree := by decide +kernel
  tree := by decide +kernel
  sited := by decide +kernel
  apart := ⟨by decide +kernel, by decide +kernel⟩
  firm := by
    unfold Firm
    decide +kernel

theorem afterRenaming_ground : renamingCache.Ground afterRenaming where
  linkFree := by decide +kernel
  tree := by decide +kernel
  sited := by decide +kernel
  apart := beforeRenaming_ground.apart
  firm := by
    unfold Firm
    decide +kernel

theorem history_renamed : renamingCache.History beforeRenaming ["a"] afterRenaming := by
  have fit : (renamingCache.folder.join "a").Fit :=
    ⟨by decide +kernel, by decide +kernel, ⟨"a", by decide +kernel, by decide, by decide, by decide⟩, by decide +kernel⟩
  have ready : renamingCache.Ready beforeRenaming "salt://a" "a" :=
    ready_of_new (by decide +kernel) (by decide +kernel) fit (by decide +kernel) (by decide +kernel)
  have ended : (renamingCache.acquire (.remote "salt://a") beforeRenaming).1 = .ok (some "cache/a") := by decide +kernel
  have host := (beforeRenaming_ground.obtained ready).2.1
  have acquired := History.start.acquire ready
  simp only [ended] at acquired
  have later : afterRenaming = ⟨afterRenaming.disk,
      (renamingCache.acquire (.remote "salt://a") beforeRenaming).2.host,
      (renamingCache.acquire (.remote "salt://a") beforeRenaming).2.events⟩ := by
    rw [host]
    rfl
  rw [later]
  refine acquired.upstream afterRenaming.disk ?_ (later ▸ afterRenaming_ground)
  rw [host]
  exact fun location apart => get?_of_filter (by decide +kernel) apart

theorem acquire_unless_clash_renamed :
    ∃ failure, (renamingCache.acquire (.remote "salt://a/b") afterRenaming).1 = .error failure := by
  have fit : (renamingCache.folder.join "a/b").Fit :=
    ⟨by decide +kernel, by decide +kernel, ⟨"b", by decide +kernel, by decide, by decide, by decide⟩, by decide +kernel⟩
  have ready : renamingCache.Ready afterRenaming "salt://a/b" "a/b" :=
    ready_of_new (by decide +kernel) (by decide +kernel) fit (by decide +kernel) (by decide +kernel)
  have upstream : afterRenaming.contents? (renamingCache.root.join "a/b") = some ⟨#[50]⟩ := by decide +kernel
  have clash : Clash "a" "a/b" := ⟨by decide, by decide⟩
  have empty : ∀ names, names ≠ [] → beforeRenaming.disk.get?
      (renamingCache.folder.spot beforeRenaming.host.folder ++ names) = none := by
    have apart : ∀ entry ∈ beforeRenaming.disk.entries,
        ¬renamingCache.folder.spot beforeRenaming.host.folder <+: entry.1 := by decide +kernel
    intro names some_
    by_contra present
    obtain ⟨entry, member, same⟩ := (get?_ne_none_iff (by simp [some_])).mp present
    exact apart entry member ⟨names, same.symm⟩
  exact (acquire_unless_clash beforeRenaming_ground empty history_renamed ready upstream).2
    ⟨"a", List.mem_singleton_self _, clash⟩

end Cache

end PipDriver
