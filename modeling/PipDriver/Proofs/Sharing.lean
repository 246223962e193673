import PipDriver.Proofs.Placing

/-!
Acquiring a file through a cache that others use at the same time: how the strand ends, whatever they do.
-/

namespace PipDriver.Company

open Disk

variable {company : Company} {relative : Path} {bytes held : ByteArray} {world met after : World} {β : Type}

section Contents

variable (settled : company.Settled) (asked : company.Asked relative)
include settled asked

theorem Standing.resource_contents (standing : company.Standing world) :
    world.contents? (company.resource relative) = company.start.contents? (company.resource relative) := by
  rw [standing.contents?_eq, standing.sound.contents?_resource settled asked]

theorem Standing.isFile_resource (standing : company.Standing world) :
    world.isFile (company.cache.root.join relative) =
      (company.start.contents? (company.resource relative)).isSome := by
  rw [World.isFile_eq_isSome_contents?, ← standing.resource_contents settled asked]
  rfl

theorem Standing.copy_kept (standing : company.Standing world) (later : company.Standing met)
    (onward : company.Onward world.disk met.disk)
    (there : world.contents? (company.copy relative) = some held) :
    ∃ still, met.contents? (company.copy relative) = some still := by
  rw [standing.contents?_eq] at there
  rw [later.contents?_eq]
  rcases onward.contents? asked (standing.linkFree settled) (later.linkFree settled) there with same | ⟨new, -, given⟩
  · exact ⟨held, same⟩
  · exact ⟨new, given⟩

/-- A copy of what is upstream stays one. -/
theorem Standing.copy_current (standing : company.Standing world) (later : company.Standing met)
    (onward : company.Onward world.disk met.disk)
    (upstream : company.start.contents? (company.resource relative) = some bytes)
    (there : world.contents? (company.copy relative) = some bytes) :
    met.contents? (company.copy relative) = some bytes := by
  rw [standing.contents?_eq] at there
  rw [later.contents?_eq]
  rcases onward.contents? asked (standing.linkFree settled) (later.linkFree settled) there with same | ⟨new, from_, given⟩
  · exact same
  · have source := (settled.start_contents.mp upstream).2.2
    rw [asked.resource_spot, from_, Option.some.injEq] at source
    exact source ▸ given

theorem Standing.copy_of_digest (standing : company.Standing world)
    (upstream : company.start.contents? (company.resource relative) = some bytes)
    (there : world.contents? (company.copy relative) = some held)
    (same : Digest.ofBytes bytes = Digest.ofBytes held) : bytes = held := by
  have fetchable : company.Fetchable relative bytes := ⟨asked, upstream⟩
  rw [standing.contents?_eq] at there
  obtain ⟨-, -, at_⟩ := (Path.contents?_iff (standing.linkFree settled)).mp there
  rw [asked.copy_spot] at at_
  have source := fetchable.bytesAt_source settled
  rcases standing.sound.bytesAt_home settled asked (fetchable.core_ne_nil settled) at_ with old | new
  · exact settled.told relative asked held bytes (asked.copy_spot ▸ old) upstream same
  · rw [new, Option.some.injEq] at source
    exact source.symm

end Contents

inductive Obtained (company : Company) (relative : Path) :
    Option Location → World → Except Failure (Option Path) → Prop
  | missing {after : World} (standing : company.Standing after)
      (upstream : company.start.contents? (company.resource relative) = none) :
      Obtained company relative none after (.ok none)
  | copied {after : World} {bytes : ByteArray} (standing : company.Standing after)
      (upstream : company.start.contents? (company.resource relative) = some bytes)
      (there : after.contents? (company.copy relative) = some bytes) :
      Obtained company relative none after (.ok (some (company.copy relative)))
  | failed {after : World} {failure : Failure} {bytes : ByteArray} (standing : company.Standing after)
      (upstream : company.start.contents? (company.resource relative) = some bytes)
      (blocked : ¬company.Passable relative)
      (stale : company.start.contents? (company.copy relative) ≠ some bytes) :
      Obtained company relative none after (.error failure)

theorem Obtained.holds_nothing {held : Option Location} {world : World} {answer : Except Failure (Option Path)}
    (obtained : company.Obtained relative held world answer) : held = none := by
  cases obtained <;> rfl

def Stale (company : Company) (relative : Path) : Prop :=
  ∀ bytes, company.start.contents? (company.resource relative) = some bytes →
    company.start.contents? (company.copy relative) ≠ some bytes

section Strands

variable (settled : company.Settled) (asked : company.Asked relative) {uri : Text}
  (named : Cache.relative uri = .ok relative)
include settled asked

theorem keeps_copy (upstream : company.start.contents? (company.resource relative) = some bytes) :
    company.Keeps (company.Outcome relative fun after _ => after.contents? (company.copy relative) = some bytes)
      none world (Strand.copy (company.resource relative) (company.copy relative)) := by
  refine keeps_check fun met meets => ?_
  have read : met.read (company.resource relative) = .ok bytes :=
    World.read_of_contents? ((meets.standing.resource_contents settled asked).trans upstream)
  simp only [read]
  exact keeps_write settled ⟨asked, upstream⟩ meets.standing

include named

theorem keeps_fetch (stale : company.Stale relative) :
    company.Keeps (company.Obtained relative) none world (Strand.fetch company.cache uri) := by
  unfold Strand.fetch
  rw [Cache.resourcePath_eq named, Cache.copyPath_eq named]
  refine keeps_atom fun met meets _ => ⟨none, .ok (), met.moved met.disk [.fetched uri], rfl, rfl,
    allows_nothing meets.standing.sound, ?_⟩
  refine keeps_look fun met meets => ?_
  have standing := meets.standing
  rw [standing.isFile_resource settled asked]
  cases upstream : company.start.contents? (company.resource relative) with
  | none => exact keeps_pure (.missing standing upstream)
  | some bytes =>
      refine (keeps_copy settled asked upstream).bind ?_ ?_
      · intro taken after failure failed
        cases failed with
        | failed standing blocked => exact .failed standing upstream blocked (stale bytes upstream)
      · intro taken after value done
        cases done with
        | done standing copied => exact keeps_pure (.copied standing upstream copied)

theorem keeps_resourceDigest :
    company.Keeps (fun taken after answer => taken = none ∧ company.Standing after ∧
      company.Onward world.disk after.disk ∧ answer = .ok
        ((company.start.contents? (company.resource relative)).map Digest.ofBytes)) none world
      (Strand.resourceDigest company.cache uri) := by
  unfold Strand.resourceDigest
  rw [Cache.resourcePath_eq named]
  refine keeps_look fun met meets => ?_
  rw [meets.standing.isFile_resource settled asked]
  cases upstream : company.start.contents? (company.resource relative) with
  | none => exact keeps_pure ⟨rfl, meets.standing, meets.onward, rfl⟩
  | some bytes =>
      refine keeps_check fun later further => ?_
      have digest : Cache.digestAt later (company.cache.root.join relative) = .ok (Digest.ofBytes bytes) :=
        Cache.digestAt_of_contents? ((further.standing.resource_contents settled asked).trans upstream)
      rw [digest]
      exact keeps_pure ⟨rfl, further.standing, meets.onward.trans further.onward, rfl⟩

inductive Compared (company : Company) (relative : Path) :
    Option Location → World → Except Failure Bool → Prop
  | current {after : World} {bytes : ByteArray} (standing : company.Standing after)
      (upstream : company.start.contents? (company.resource relative) = some bytes)
      (there : after.contents? (company.copy relative) = some bytes) :
      Compared company relative none after (.ok false)
  | outdated {after : World} (standing : company.Standing after) (stale : company.Stale relative) :
      Compared company relative none after (.ok true)

theorem keeps_isOutdated (standing : company.Standing world)
    (there : world.contents? (company.copy relative) = some held) :
    company.Keeps (company.Compared relative) none world
      (Strand.isOutdated company.cache uri (company.copy relative)) := by
  refine (keeps_resourceDigest settled asked named).bind ?_ ?_
  · rintro taken after failure ⟨-, -, -, impossible⟩
    cases impossible
  · rintro taken after value ⟨rfl, -, onward, same⟩
    obtain rfl := Except.ok.inj same
    refine keeps_check fun met meets => ?_
    have onward := onward.trans meets.onward
    obtain ⟨still, kept⟩ := standing.copy_kept settled asked meets.standing onward there
    rw [Cache.digestAt_of_contents? kept]
    cases upstream : company.start.contents? (company.resource relative) with
    | none =>
        refine keeps_pure (.outdated meets.standing fun bytes given => ?_)
        simp [upstream] at given
    | some bytes =>
        change company.Keeps _ none met
          (pure (decide ((some bytes).map Digest.ofBytes ≠ some (Digest.ofBytes still))))
        by_cases equal : Digest.ofBytes bytes = Digest.ofBytes still
        · have current := meets.standing.copy_of_digest settled asked upstream kept equal
          rw [decide_eq_false (by simp [equal])]
          exact keeps_pure (.current meets.standing upstream (current ▸ kept))
        · have other : some bytes ≠ some still := by
            intro same
            exact equal (congrArg Digest.ofBytes (Option.some.inj same))
          rw [decide_eq_true (by simpa using equal)]
          refine keeps_pure (.outdated meets.standing fun more given fresh => ?_)
          obtain rfl := Option.some.inj (upstream.symm.trans given)
          have still := (standing_start company).copy_current settled asked meets.standing meets.standing.onward
            upstream fresh
          exact other (still.symm.trans kept)

def Found (company : Company) (relative : Path) (taken : Option Location) (after : World)
    (answer : Except Failure (Option Path)) : Prop :=
  ∃ held, taken = none ∧ company.Standing after ∧ after.contents? (company.copy relative) = some held ∧
    answer = .ok (some (company.copy relative))

theorem keeps_kept : company.Keeps (fun taken after answer => company.Found relative taken after answer ∨
    taken = none ∧ company.Stale relative ∧ answer = .ok none) none company.start
    (Strand.kept company.cache uri) := by
  unfold Strand.kept
  rw [Cache.copyPath_eq named]
  refine keeps_look fun met meets => ?_
  have standing := meets.standing
  rw [World.isFile_eq_isSome_contents?]
  cases there : met.contents? (company.cache.folder.join relative) with
  | some held => exact keeps_pure (Or.inl ⟨held, rfl, standing, there, rfl⟩)
  | none =>
      refine keeps_pure (Or.inr ⟨rfl, ?_, rfl⟩)
      intro bytes upstream fresh
      have kept := (standing_start company).copy_current settled asked standing meets.onward upstream fresh
      rw [copy, there] at kept
      cases kept

theorem keeps_keptOrFetched : company.Keeps (fun taken after answer => company.Found relative taken after answer ∨
    company.Obtained relative taken after answer ∧ ∀ path, answer ≠ .ok (some path)) none company.start
    (Strand.keptOrFetched company.cache uri) := by
  refine (keeps_kept settled asked named).bind ?_ ?_
  · rintro taken after failure (⟨_, _, _, _, impossible⟩ | ⟨-, -, impossible⟩)
    · cases impossible
    · cases impossible
  · rintro taken after value (⟨held, rfl, standing, there, same⟩ | ⟨rfl, stale, same⟩)
    · obtain rfl := Except.ok.inj same
      exact keeps_pure (Or.inl ⟨held, rfl, standing, there, rfl⟩)
    · obtain rfl := Except.ok.inj same
      refine (keeps_fetch settled asked named stale).mono ?_
      intro taken after answer obtained
      cases obtained with
      | missing standing upstream => exact Or.inr ⟨.missing standing upstream, by simp⟩
      | copied standing upstream there => exact Or.inl ⟨_, rfl, standing, there, rfl⟩
      | failed standing upstream blocked stale => exact Or.inr ⟨.failed standing upstream blocked stale, by simp⟩

/-- A strand that acquires what a URI names ends as it should, whatever the others do. -/
theorem keeps_acquire : company.Keeps (company.Obtained relative) none company.start
    (Strand.acquire company.cache uri) := by
  refine (keeps_keptOrFetched settled asked named).bind ?_ ?_
  · rintro taken after failure (⟨_, _, _, _, impossible⟩ | ⟨obtained, -⟩)
    · cases impossible
    · exact obtained
  · rintro taken after value (⟨held, rfl, standing, there, same⟩ | ⟨obtained, other⟩)
    · obtain rfl := Except.ok.inj same
      refine (keeps_isOutdated settled asked named standing there).bind ?_ ?_
      · intro taken after failure failed
        cases failed
      · intro taken after outdated compared
        cases compared with
        | current standing upstream there => exact keeps_pure (.copied standing upstream there)
        | outdated standing stale => exact keeps_fetch settled asked named stale
    · cases value with
      | none => exact keeps_pure obtained
      | some path => exact (other path rfl).elim

end Strands

end PipDriver.Company
