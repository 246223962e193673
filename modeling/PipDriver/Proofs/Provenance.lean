import PipDriver.Proofs.Sparing

/-!
Where the files in a cache come from. In a session in which nobody else writes into the cache, each of them holds
the bytes that were upstream when it was last fetched.
-/

namespace PipDriver

open Disk AtomicFile

/-- What was kept last under these names. -/
def latest (names : List Bytes) (ledger : List Copying) : Option ByteArray :=
  (ledger.reverse.find? fun copying => copying.names = names).map Copying.bytes

def Follows (home : Location) (ledger : List Copying) (before after : Disk) : Prop :=
  ∀ names, names ≠ [] → ∀ bytes, after.bytesAt (home ++ names) = some bytes →
    (latest names ledger).or (before.bytesAt (home ++ names)) = some bytes

inductive Look
  | kept (uri : Text)
  | resourceDigest (uri : Text)
  | digest (path : Path)

def Look.step (cache : Cache) : Look → Step (Option Text)
  | .kept uri => Step.check fun world => (cache.kept world uri).map (Option.map Path.text)
  | .resourceDigest uri => Step.check fun world => cache.resourceDigest world uri
  | .digest path => Step.check fun world => (Cache.digestAt world path).map some

def Action.byHand : Action → Bool
  | .write _ _ | .copy _ _ | .put _ _ | .remove _ => true
  | _ => false

inductive Deed
  | act (services : Services) (action : Action)
  | look (what : Look)

structure Episode where
  deed : Deed
  before : World
  after : World

namespace Deed

def after (cache : Cache) (world : World) : Deed → World
  | .act services action => action.after { services with cache } world
  | .look what => (what.step cache world).2

def byHand : Deed → Bool
  | .act _ action => action.byHand
  | .look _ => false

def done (cache : Cache) (world : World) (deed : Deed) : Episode :=
  let before := { world with events := [] }
  { deed, before, after := deed.after cache before }

end Deed

structure Episode.Fair (home : Location) (episode : Episode) : Prop where
  byHand : episode.deed.byHand = true → Spares home episode.before.disk episode.after.disk
  others : Respects home episode.before.host.folder episode.after.events

def lastWorld (first : World) (past : List Episode) : World := (past.getLast?.map Episode.after).getD first

namespace Cache

section Definitions

variable (cache : Cache)

def copyings (world : World) : List Text → List Copying
  | [] => []
  | uri :: uris =>
    (cache.copied? uri world (cache.fetchRecorded uri world).1).toList ++
      copyings (cache.fetchRecorded uri world).2 uris

/-- What is kept in an episode, which is what is fetched in it. -/
def keeping (episode : Episode) : List Copying :=
  match episode.deed with
  | .act _ (.fetch uri) => (cache.copied? uri episode.before (cache.fetch uri episode.before).1).toList
  | _ => cache.copyings episode.before episode.after.fetches

def episodes (world : World) : List Deed → List Episode
  | [] => []
  | deed :: deeds => deed.done cache world :: episodes (deed.done cache world).after deeds

structure Undisturbed (first : World) (deeds : List Deed) : Prop where
  empty : ∀ names, names ≠ [] → first.disk.bytesAt (cache.home first.host.folder ++ names) = none
  direct : ∀ episode ∈ cache.episodes first deeds, cache.Direct episode.before
  fair : ∀ episode ∈ cache.episodes first deeds, episode.Fair (cache.home first.host.folder)

structure Confined (world : World) (ended : Except Failure (Option Path) × World) : Prop where
  outside : ∀ location, ¬Inside (cache.home world.host.folder) location →
    ended.2.disk.get? location = world.disk.get? location ∨
      (location ∈ cache.folder.trail world.host.folder ∧ world.disk.get? location = none ∧
        ended.2.disk.get? location = some .folder)
  still : (∀ path, ended.1 ≠ .ok (some path)) → ∀ location file,
    ended.2.disk.get? location = some (.file file) ↔ world.disk.get? location = some (.file file)

end Definitions

end Cache

section Ledgers

variable {home : Location} {names : List Bytes} {ledger more : List Copying} {before between after : Disk}

theorem World.fetches_of_fresh {world : World} (fresh : world.events = []) : world.fetches = [] := by
  rw [fetches, fresh, List.filterMap_nil]

theorem latest_append (names : List Bytes) (ledger more : List Copying) :
    latest names (ledger ++ more) = (latest names more).or (latest names ledger) := by
  simp [latest, List.find?_append, Option.map_or]

theorem Disk.Spares.follows (spares : Spares home before after) : Follows home [] before after :=
  fun names some_ bytes held => spares names some_ bytes held

theorem Follows.trans (first : Follows home ledger before between) (second : Follows home more between after) :
    Follows home (ledger ++ more) before after := by
  intro names some_ bytes held
  have last := second names some_ bytes held
  rw [latest_append, Option.or_assoc]
  cases kept : latest names more with
  | some found => rwa [kept] at last
  | none =>
      rw [kept, Option.none_or] at last
      exact first names some_ bytes last

theorem Cache.Filed.follows {cache : Cache} {kept : Option Copying} {world later : World}
    (filed : cache.Filed kept world later) :
    Follows (cache.home world.host.folder) kept.toList world.disk later.disk := by
  intro names some_ bytes held
  by_cases place : ∃ copying, kept = some copying ∧ names = copying.names
  · obtain ⟨copying, rfl, rfl⟩ := place
    obtain ⟨file, there, rfl⟩ := bytesAt_eq_some_iff.mp held
    have placed := (filed.placed copying rfl).2
    rw [there, Option.some.injEq, Entry.file.injEq] at placed
    simp [latest, placed]
  · have other : ∀ copying, kept = some copying → cache.home world.host.folder ++ names ≠
        cache.home world.host.folder ++ copying.names :=
      fun copying given same => place ⟨copying, given, List.append_cancel_left same⟩
    have unlisted : latest names kept.toList = none := by
      cases kept with
      | none => rfl
      | some copying =>
          have differ : copying.names ≠ names := fun same => place ⟨copying, rfl, same.symm⟩
          simp [latest, differ]
    rw [unlisted, Option.none_or]
    rcases filed.elsewhere _ other with same | ⟨-, -, made⟩
    · rwa [bytesAt_congr same] at held
    · rw [bytesAt, made] at held
      cases held

end Ledgers

namespace Cache

variable {cache : Cache} {world first : World} {home : Location}

theorem Filed.confined {uri : Text} {ended : Except Failure (Option Path) × World}
    (filed : cache.Filed (cache.copied? uri world ended.1) world ended.2) : cache.Confined world ended := by
  refine ⟨fun _ => filed.outside, fun gives => ?_⟩
  rw [copied?_eq_none gives] at filed
  exact filed.still

theorem Direct.confined_acquire (direct : cache.Direct world) (source : Source) :
    cache.Confined world (cache.acquire source world) := by
  rcases direct.acquire_once source with ⟨answer, ended⟩ | ⟨uri, -, ended⟩
  · rw [ended]
    exact ⟨fun _ _ => Or.inl rfl, fun _ _ _ => Iff.rfl⟩
  · rw [ended]
    exact (direct.filed_fetchRecorded uri).confined

theorem Direct.acquire_follows (direct : cache.Direct world) (fresh : world.events = []) (source : Source) :
    Follows (cache.home world.host.folder) (cache.copyings world (cache.acquire source world).2.fetches) world.disk
      (cache.acquire source world).2.disk := by
  have unfetched := World.fetches_of_fresh fresh
  rcases direct.acquire_once source with ⟨answer, ended⟩ | ⟨uri, -, ended⟩
  · rw [ended, unfetched]
    exact (Spares.refl _ _).follows
  · rw [ended, fetchRecorded_fetches, unfetched]
    simp only [List.nil_append, copyings, List.append_nil]
    exact (direct.filed_fetchRecorded uri).follows

end Cache

section Deeds

variable {cache : Cache} {home : Location} {world : World}

theorem Driven.follows {services : Services} {mid after : World} (driven : Driven services home world mid after)
    (direct : services.cache.Direct world) (fresh : world.events = [])
    (same : home = services.cache.home world.host.folder)
    (respects : Respects home world.host.folder after.events) :
    Follows home (services.cache.copyings world after.fetches) world.disk after.disk := by
  have spared := (driven.spares respects).follows
  rw [driven.fetches]
  have kept : Follows home (services.cache.copyings world mid.fetches) world.disk mid.disk := by
    subst same
    rcases driven.came with rfl | ⟨source, rfl⟩
    · rw [World.fetches_of_fresh fresh]
      exact (Spares.refl _ _).follows
    · exact direct.acquire_follows fresh source
  have both := kept.trans spared
  rwa [List.append_nil] at both

theorem AtomicFile.write_fetches (path : Path) (bytes : ByteArray) (world : World) :
    (write path bytes world).2.fetches = world.fetches := by
  obtain ⟨temporaries, -, ⟨place, fault, ended⟩ | ⟨location, -, ended⟩⟩ := write_cases path bytes world
  · rw [ended]
    exact World.fetches_made _ _ _
  · rw [ended]
    exact World.fetches_made _ _ _

theorem AtomicFile.copy_fetches (source target : Path) (world : World) :
    (copy source target world).2.fetches = world.fetches := by
  simp only [copy, Step.bind_apply, Step.read, Step.check_apply]
  cases (world.read source).mapError (Failure.file source) with
  | error failure => rfl
  | ok bytes => exact write_fetches target bytes world

theorem Action.fetches_byHand {action : Action} (byHand : action.byHand = true) (services : Services)
    (world : World) :
    (action.after services world).fetches = world.fetches := by
  cases action with
  | write path bytes => exact write_fetches path bytes world
  | copy source target => exact copy_fetches source target world
  | put _ _ | remove _ => rfl
  | install _ | uninstall _ | freeze _ | list _ _ | acquire _ | fetch _ | scopedCopy _ _ _ => cases byHand

theorem Action.host_byHand {action : Action} (byHand : action.byHand = true) (services : Services) (world : World) :
    (action.after services world).host = world.host := by
  cases action with
  | write path bytes =>
      obtain ⟨events, worked⟩ := write_worked path bytes world
      exact worked.host_eq
  | copy source target =>
      obtain ⟨events, worked⟩ := copy_worked source target world
      exact worked.host_eq
  | put _ _ | remove _ => rfl
  | install _ | uninstall _ | freeze _ | list _ _ | acquire _ | fetch _ | scopedCopy _ _ _ => cases byHand

theorem Action.byHand_of_rest {action : Action} (undriven : ¬action.drives = true)
    (unfetched : ∀ uri, action ≠ .fetch uri) : action.byHand = true := by
  cases action with
  | fetch uri => exact (unfetched uri rfl).elim
  | install _ | uninstall _ | freeze _ | list _ _ | acquire _ | scopedCopy _ _ _ => exact (undriven rfl).elim
  | write _ _ | copy _ _ | put _ _ | remove _ => rfl

theorem Cache.keeping_eq_copyings (cache : Cache) {deed : Deed} {before after : World}
    (other : ∀ services uri, deed ≠ .act services (.fetch uri)) :
    cache.keeping { deed, before, after } = cache.copyings before after.fetches := by
  unfold keeping
  split
  · rename_i services uri same
    exact (other services uri same).elim
  · rfl

/-- What one deed leaves in the cache was kept by it, or was there. -/
theorem Deed.follows (deed : Deed) (direct : cache.Direct world) (fresh : world.events = [])
    (fair : Episode.Fair (cache.home world.host.folder) { deed, before := world, after := deed.after cache world }) :
    Follows (cache.home world.host.folder) (cache.keeping { deed, before := world, after := deed.after cache world })
        world.disk (deed.after cache world).disk ∧
      (deed.after cache world).host = world.host := by
  have unfetched := World.fetches_of_fresh fresh
  cases deed with
  | look what =>
      have same : (Deed.look what).after cache world = world := by cases what <;> rfl
      rw [cache.keeping_eq_copyings (by simp), same, unfetched]
      exact ⟨(Spares.refl _ _).follows, rfl⟩
  | act services action =>
      by_cases fetches : ∃ uri, action = .fetch uri
      · obtain ⟨uri, rfl⟩ := fetches
        have filed := direct.filed_fetch uri
        exact ⟨filed.follows, filed.host⟩
      have other : ∀ uri, action ≠ .fetch uri := fun uri same => fetches ⟨uri, same⟩
      rw [cache.keeping_eq_copyings (by simpa using fun _ uri _ => other uri)]
      by_cases drives : action.drives = true
      · obtain ⟨mid, driven⟩ := Action.driven drives { services with cache } (cache.home world.host.folder) world
        exact ⟨driven.follows direct fresh rfl fair.others, driven.host⟩
      · have byHand := Action.byHand_of_rest drives other
        have quiet : (action.after { services with cache } world).fetches = [] :=
          (Action.fetches_byHand byHand _ world).trans unfetched
        rw [after, quiet]
        exact ⟨(fair.byHand byHand).follows, Action.host_byHand byHand _ world⟩

theorem lastWorld_cons (first : World) (episode : Episode) (past : List Episode) :
    lastWorld first (episode :: past) = lastWorld episode.after past := by
  cases past with
  | nil => rfl
  | cons next past =>
      obtain ⟨last, final⟩ : ∃ last, (next :: past).getLast? = some last :=
        ⟨_, List.getLast?_eq_some_getLast (List.cons_ne_nil next past)⟩
      simp [lastWorld, List.getLast?_cons_cons, final]

theorem episodes_follow (first : World) (deeds : List Deed)
    (direct : ∀ episode ∈ cache.episodes first deeds, cache.Direct episode.before)
    (fair : ∀ episode ∈ cache.episodes first deeds, episode.Fair (cache.home first.host.folder))
    (past : List Episode) (begins : past <+: cache.episodes first deeds) :
    Follows (cache.home first.host.folder) (past.flatMap cache.keeping) first.disk (lastWorld first past).disk := by
  -- Each deed is done in the world that the one before has left, on the same host.
  induction deeds generalizing first past with
  | nil =>
      obtain rfl := List.prefix_nil.mp begins
      exact (Spares.refl _ _).follows
  | cons deed deeds ih =>
      cases past with
      | nil => exact (Spares.refl _ _).follows
      | cons episode past =>
          obtain ⟨rfl, rest⟩ := List.cons_prefix_cons.mp begins
          have one := deed.follows (direct _ List.mem_cons_self) rfl (fair _ List.mem_cons_self)
          have host : (deed.done cache first).after.host = first.host := one.2
          have later := ih _ (fun episode member => direct episode (List.mem_cons_of_mem _ member))
            (fun episode member => host ▸ fair episode (List.mem_cons_of_mem _ member)) past rest
          rw [host] at later
          rw [lastWorld_cons, List.flatMap_cons]
          exact one.1.trans later

end Deeds

/-- Through a whole session every file in the cache holds what was upstream when it was last fetched. What is asked
of the cache changes nothing outside it but for folders on the way, and no file where it gives no path. -/
theorem Cache.files_trace_to_fetches {cache : Cache} {first : World} {deeds : List Deed}
    (undisturbed : cache.Undisturbed first deeds) :
    (∀ past, past <+: cache.episodes first deeds → ∀ names, names ≠ [] → ∀ bytes,
      (lastWorld first past).disk.bytesAt (cache.home first.host.folder ++ names) = some bytes →
        latest names (past.flatMap cache.keeping) = some bytes) ∧
    ∀ world, cache.Direct world → (∀ uri, cache.Confined world (cache.fetch uri world)) ∧
      (∀ source, cache.Confined world (cache.acquire source world)) ∧
      ∀ look : Look, (look.step cache world).2 = world := by
  obtain ⟨empty, direct, fair⟩ := undisturbed
  constructor
  · intro past begins names some_ bytes held
    have traced := episodes_follow first deeds direct fair past begins names some_ bytes held
    rwa [empty names some_, Option.or_none] at traced
  · intro world direct
    refine ⟨fun uri => (direct.filed_fetch uri).confined, direct.confined_acquire, fun look => ?_⟩
    cases look <;> rfl

section Traced

attribute [local instance] bytesEquality

def tracedCache : Cache where
  root := "srv"
  folder := "kept"

def forgetfulServices : Services where
  runner := fun _ => do
    Step.change "tmp" fun disk base => disk.removeFile base "kept/a"
    pure { code := 0, output := [], diagnostics := [] }
  ownership := fun _ _ => pure ()
  cache := tracedCache

def tracedStart : World where
  disk := { entries := [(["tmp"], .folder), (["bin"], .link "tmp")] }
  host := { folder := [] }

def upstream (bytes : ByteArray) : Deed := .act forgetfulServices (.put "srv/a" (.file { bytes }))

def tracedDeeds : List Deed :=
  [upstream ⟨#[49]⟩, .act forgetfulServices (.acquire (.remote "salt://a")), .look (.kept "salt://a"),
    upstream ⟨#[50]⟩, .act forgetfulServices (.fetch "salt://.//a"), .act forgetfulServices (.remove "srv/a"),
    .act forgetfulServices (.fetch "salt://a"), upstream ⟨#[51]⟩, .look (.resourceDigest "salt://a"),
    .act forgetfulServices
      (.install { requirements := some (.remote "salt://a"), program := some "pip", user := some "guest" })]

def tracedEpisodes : List Episode := tracedCache.episodes tracedStart tracedDeeds

theorem tracedEpisodes_checked : ∀ episode ∈ tracedEpisodes,
    (∀ entry ∈ episode.before.disk.entries,
      entry.1 ∈ tracedCache.folder.trail episode.before.host.folder ∨
          tracedCache.home episode.before.host.folder <+: entry.1 →
        (episode.before.disk.get? entry.1).all fun found => match found with | .link _ => false | _ => true) ∧
    (episode.deed.byHand = true →
      Spares (tracedCache.home tracedStart.host.folder) episode.before.disk episode.after.disk) ∧
    respectsCheck (tracedCache.home tracedStart.host.folder) episode.before.host.folder
      episode.after.events = true := by
  decide +kernel

theorem tracedDeeds_undisturbed : tracedCache.Undisturbed tracedStart tracedDeeds where
  empty := by
    have spares : Spares (tracedCache.home tracedStart.host.folder) {} tracedStart.disk := by decide +kernel
    intro names some_
    cases held : tracedStart.disk.bytesAt (tracedCache.home tracedStart.host.folder ++ names) with
    | none => rfl
    | some bytes => exact absurd (spares names some_ bytes held) (by simp [bytesAt, get?, some_])
  direct := fun episode member => Cache.direct_of_check (tracedEpisodes_checked episode member).1
  fair := by
    intro episode member
    obtain ⟨-, spares, respects⟩ := tracedEpisodes_checked episode member
    exact ⟨spares, respects_of_check respects⟩

theorem files_trace_to_fetches_renewed :
    (lastWorld tracedStart (tracedEpisodes.take 7)).disk.bytesAt ["kept", "a"] = some ⟨#[50]⟩ ∧
      latest ["a"] ((tracedEpisodes.take 7).flatMap tracedCache.keeping) = some ⟨#[50]⟩ ∧
      (lastWorld tracedStart tracedEpisodes).disk.bytesAt ["kept", "a"] = none := by
  have ends : (lastWorld tracedStart (tracedEpisodes.take 7)).disk.bytesAt ["kept", "a"] = some ⟨#[50]⟩ ∧
      (lastWorld tracedStart tracedEpisodes).disk.bytesAt ["kept", "a"] = none := by
    decide +kernel
  have traced := Cache.files_trace_to_fetches tracedDeeds_undisturbed
  exact ⟨ends.1, traced.1 _ (List.take_prefix 7 tracedEpisodes) ["a"] (by simp) _ ends.1, ends.2⟩

end Traced

end PipDriver
