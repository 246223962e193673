import PipDriver.Proofs.Driving

/-!
The removal of temporary files: whatever happens on the way, they are gone in the end, and the removal has touched
nothing else.
-/

namespace PipDriver

open Bytes (dot)

open Disk AtomicFile

section Removal

variable {world : World} {path other : Path} {name : Bytes}

/-- A removal leaves the disk alone where nothing but a folder is at the path, and erases what is there
otherwise. -/
theorem Temporary.remove_cases (path : Path) (world : World) :
    (remove path world = world ∧
      world.disk.holds world.host.folder path = world.disk.holdsFolder world.host.folder path) ∨
    ∃ location entry, entry ≠ .folder ∧
      world.disk.find world.host.folder path false = .ok (.occupied location entry) ∧
      (remove path world).disk = world.disk.erase location := by
  unfold remove removeFile holds holdsFolder
  cases found : world.disk.find world.host.folder path false with
  | error fault => exact Or.inl ⟨rfl, rfl⟩
  | ok place =>
      cases place with
      | vacant folder free asked => exact Or.inl ⟨rfl, rfl⟩
      | occupied location entry =>
          cases entry with
          | folder => exact Or.inl ⟨rfl, rfl⟩
          | file file => exact Or.inr ⟨location, .file file, by simp, rfl, rfl⟩
          | link target => exact Or.inr ⟨location, .link target, by simp, rfl, rfl⟩
          | device device => exact Or.inr ⟨location, .device device, by simp, rfl, rfl⟩

theorem Temporary.Made.remove_disk {copy : Path} {folder : Location} {last : World}
    (made : Made world other copy folder name) (file : File)
    (stands : last.disk = world.disk.put (folder ++ [name]) (.file file)) (base : last.host = world.host) :
    (remove copy last).disk = world.disk := by
  have found := made.find_filled file false
  unfold remove removeFile
  simp only [stands, base, found, made.erase_filled]

theorem Temporary.remove_not_holds (apart : world.disk.holdsFolder world.host.folder path = false) :
    (remove path world).disk.holds world.host.folder path = false := by
  rcases remove_cases path world with ⟨same, holds⟩ | ⟨location, entry, proper, found, erased⟩
  · rw [same, holds, apart]
  · rw [erased]
    rcases List.eq_nil_or_concat location with rfl | ⟨folder, last, rfl⟩
    · rcases (arrives_of_find found).holds with impossible | there
      · exact (proper impossible).elim
      · rw [get?_root, Option.some.injEq] at there
        exact (proper there.symm).elim
    · exact not_holds_erase proper List.concat_eq_append found

theorem Temporary.get?_remove (notDot : name ≠ [dot]) (notDots : name ≠ [dot, dot])
    (last : path.route.names.getLast? = some name) (unclosed : path.route.closed = false)
    {location : Location} (different : location.getLast? ≠ some name) :
    (remove path world).disk.get? location = world.disk.get? location := by
  rcases remove_cases path world with ⟨same, -⟩ | ⟨there, entry, -, found, erased⟩
  · rw [same]
  · have named := (last_of_find notDot notDots last unclosed found).1
    have apart : location ≠ there := by
      rintro rfl
      exact different named
    rw [erased, get?_erase_of_ne _ _ _ apart]

theorem Disk.holds_grow {disk after : Disk} {base : Location}
    (kept : ∀ location entry, disk.get? location = some entry → after.get? location = some entry)
    (absent : after.holds base path = false) : disk.holds base path = false := by
  cases there : disk.holds base path with
  | false => rfl
  | true =>
      unfold holds at there
      split at there
      · rename_i location entry found
        simp [holds, find_grow kept found] at absent
      · cases there

theorem Temporary.remove_not_holds_other (absent : world.disk.holds world.host.folder other = false) :
    (remove path world).disk.holds world.host.folder other = false := by
  refine holds_grow (fun location entry there => ?_) absent
  rcases remove_cases path world with ⟨same, -⟩ | ⟨gone, _, proper, found, erased⟩
  · rwa [same] at there
  · have apart : location ≠ gone ∨ location = [] := by
      by_cases same : location = gone
      · subst same
        by_cases root : location = []
        · exact Or.inr root
        · rw [erased, get?_erase_self _ _ root] at there
          cases there
      · exact Or.inl same
    rcases apart with apart | rfl
    · rwa [erased, get?_erase_of_ne _ _ _ apart] at there
    · simpa using there

end Removal

theorem Path.IsNamed.not_both {path : Path} (write : path.IsNamed AtomicFile.nameStart)
    (copy : path.IsNamed ScopedCopy.nameStart) : False := by
  obtain ⟨first, one⟩ := write.begins
  obtain ⟨second, two⟩ := copy.begins
  have same : AtomicFile.nameStart ++ first = ScopedCopy.nameStart ++ second :=
    Option.some.inj (one.symm.trans two)
  have hidden : (AtomicFile.nameStart ++ first).head? = some dot := rfl
  have letter : (ScopedCopy.nameStart ++ second).head? = some (UInt8.ofNat 'p'.toNat) := rfl
  rw [same, letter] at hidden
  exact absurd hidden (by decide)

theorem AtomicFile.nameStart_append_ne (rest : Bytes) :
    nameStart ++ rest ≠ [dot] ∧ nameStart ++ rest ≠ [dot, dot] := by
  have letter : (nameStart ++ rest)[1]? = some (UInt8.ofNat 'p'.toNat) := rfl
  constructor
  · intro same
    rw [same] at letter
    exact absurd letter (by decide)
  · intro same
    rw [same] at letter
    exact absurd letter (by decide)

theorem Temporary.Made.not_holds_beside {world : World} {source copy temporary : Path} {folder : Location}
    {name : Bytes} (made : Made world source copy folder name) (isCopy : copy.IsNamed ScopedCopy.nameStart)
    (isWrite : temporary.IsNamed AtomicFile.nameStart) (file : File)
    (absent : world.disk.holds world.host.folder temporary = false) :
    (world.disk.put (folder ++ [name]) (.file file)).holds world.host.folder temporary = false := by
  have there : (world.disk.put (folder ++ [name]) (.file file)).get? (folder ++ [name]) = some (.file file) :=
    get?_put_self _ _ _ (by simp)
  have kept : KeptOff (world.disk.put (folder ++ [name]) (.file file)) world.disk (folder ++ [name]) := by
    intro location entry apart found
    rwa [get?_put_of_ne _ _ _ _ apart] at found
  cases held : (world.disk.put (folder ++ [name]) (.file file)).holds world.host.folder temporary with
  | false => rfl
  | true =>
      unfold holds at held
      split at held
      · rename_i location entry found
        have usable := usable_of_find found
        rcases (arrives_of_find found).dichotomy folder name with steady | ⟨plain, left, rest, asked, course⟩
        · have same := steady world.disk (kept.keepsCourse_occupied _ _)
          rw [← find_eq_walk usable] at same
          simp [holds, same] at absent
        · have arrived := course _ false (by simp) (KeptOff.refl _ _)
          rw [← find_eq_walk usable, found] at arrived
          -- A path that ends at the copy has the name of a copy, and not that of a file of a write.
          rcases walk_at_leaf false left rest asked plain there rfl with ended | ended
          · rw [ended] at arrived
            cases arrived
            obtain ⟨begins, same⟩ := isWrite.begins
            have plain := nameStart_append_ne begins
            have named := (last_of_find plain.1 plain.2 same isWrite.unclosed found).1
            rw [List.getLast?_concat, ← made.last, ← same] at named
            exact (isWrite.not_both ⟨isCopy.begins.imp fun _ begins => named ▸ begins, isWrite.unclosed⟩).elim
          · rw [ended] at arrived
            cases arrived
      · cases held

inductive HandedOn : Disk → List Event → Disk → Prop
  | kept (disk : Disk) : HandedOn disk [] disk
  | asked {disk last : Disk} {event : Event} {events : List Event} (unmade : ∀ path, event ≠ .made path)
      (unlent : ∀ found left, event ≠ .lent found left) (rest : HandedOn disk events last) :
      HandedOn disk (event :: events) last
  | lent {found left last : Disk} {events : List Event} (rest : HandedOn left events last) :
      HandedOn found (.lent found left :: events) last

namespace HandedOn

variable {first last : Disk} {events : List Event}

theorem append {between : Disk} {more : List Event} (before : HandedOn first events between)
    (after : HandedOn between more last) : HandedOn first (events ++ more) last := by
  induction before with
  | kept => exact after
  | asked unmade unlent _ ih => exact .asked unmade unlent (ih after)
  | lent _ ih => exact .lent (ih after)

theorem not_made (handed : HandedOn first events last) (path : Path) : .made path ∉ events := by
  induction handed with
  | kept => simp
  | asked unmade _ _ ih => simpa [Ne.symm (unmade path)] using ih
  | lent _ ih => simpa using ih

theorem induct (handed : HandedOn first events last) {motive : Disk → Prop} (base : motive first)
    (step : ∀ found left, .lent found left ∈ events → motive found → motive left) : motive last := by
  induction handed with
  | kept => exact base
  | asked _ _ _ ih => exact ih base fun found left member => step found left (List.mem_cons_of_mem _ member)
  | lent _ ih =>
      exact ih (step _ _ List.mem_cons_self base) fun found left member =>
        step found left (List.mem_cons_of_mem _ member)

theorem idle (handed : HandedOn first events last)
    (idle : ∀ found left, .lent found left ∈ events → left = found) : last = first :=
  handed.induct (motive := fun disk => disk = first) rfl fun found left member same =>
    (idle found left member).trans same

/-- The last holder leaves the disk as it is in the end. -/
theorem last_left (handed : HandedOn first events last) {earlier later : List Event} {found left : Disk}
    (split : events = earlier ++ .lent found left :: later)
    (end_ : ∀ found left, .lent found left ∉ later) : left = last := by
  induction handed generalizing earlier with
  | kept => simp at split
  | asked unmade unlent _ ih =>
      cases earlier with
      | nil =>
          cases split
          exact (unlent _ _ rfl).elim
      | cons event others =>
          cases split
          exact ih rfl
  | lent rest ih =>
      cases earlier with
      | nil =>
          cases split
          exact (rest.idle fun found left member => (end_ found left member).elim).symm
      | cons _ others =>
          cases split
          exact ih rfl

end HandedOn

structure Tidy (changes : Location → Prop) (before after : World) : Prop where
  copies : ∀ copy, .made copy ∈ after.events → copy.IsNamed ScopedCopy.nameStart →
    (∀ found left, .lent found left ∈ after.events → left.holdsFolder before.host.folder copy = false) →
    after.disk.holds before.host.folder copy = false
  writes : ∀ temporary, .made temporary ∈ after.events → ¬ temporary.IsNamed ScopedCopy.nameStart →
    (∀ found left, .lent found left ∈ after.events → found.holds before.host.folder temporary = false →
      left.holds before.host.folder temporary = false) →
    after.disk.holds before.host.folder temporary = false
  kept : ∀ location entry, before.disk.get? location = some entry → ¬ changes location →
    (∀ found left, .lent found left ∈ after.events → left.get? location = found.get? location) →
    after.disk.get? location = some entry
  left : ∀ earlier found left later, after.events = earlier ++ .lent found left :: later →
    (∀ found left, .lent found left ∉ later) → ∀ location entry, left.get? location = some entry →
    (∀ path, .made path ∈ after.events → location.getLast? ≠ path.route.names.getLast?) →
    after.disk.get? location = some entry
  came : (∀ found left, .lent found left ∈ after.events → left = found) → ∀ location entry,
    after.disk.get? location = some entry →
    before.disk.get? location = some entry ∨ entry = .folder ∨ changes location

section

variable {before mid after : World} {target : Option Location} {events rest : List Event}

theorem AtomicFile.Worked.mem_lent (worked : Worked before mid target events) (found left : Disk) :
    .lent found left ∉ events := by
  intro member
  rcases worked.asked _ member with ⟨uri, same⟩ | ⟨temporary, same⟩ <;> cases same

theorem split_behind {found left : Disk} {earlier later : List Event}
    (unlent : ∀ found left, .lent found left ∉ events)
    (split : events ++ rest = earlier ++ .lent found left :: later) :
    ∃ middle, rest = middle ++ .lent found left :: later := by
  rcases List.append_eq_append_iff.mp split with ⟨middle, -, same⟩ | ⟨middle, same, behind⟩
  · exact ⟨middle, same⟩
  · cases middle with
    | nil => exact ⟨[], behind.symm⟩
    | cons _ others =>
        rw [List.cons_append] at behind
        cases behind
        exact (unlent found left (by simp [same])).elim

theorem tidy_of_handed (worked : Worked before mid target events) (handed : HandedOn mid.disk rest after.disk)
    (told : after.events = events ++ rest) : Tidy (fun location => target = some location) before after where
  copies := by
    intro copy made isCopy _
    rw [told] at made
    rcases List.mem_append.mp made with early | late
    · exact ((worked.gone copy early).2.not_both isCopy).elim
    · exact (handed.not_made copy late).elim
  writes := by
    intro temporary made _ others
    rw [told] at made others
    rcases List.mem_append.mp made with early | late
    · have gone := (worked.gone temporary early).1
      rw [worked.host_eq] at gone
      exact handed.induct gone fun found left member => others found left (List.mem_append_right _ member)
    · exact (handed.not_made temporary late).elim
  kept := by
    intro location entry found unchanged others
    rw [told] at others
    rcases worked.kept location entry found with same | ⟨changed, -⟩
    · refine handed.induct (motive := fun disk => disk.get? location = some entry) same ?_
      intro found left member same
      rw [others found left (List.mem_append_right _ member), same]
    · exact (unchanged changed).elim
  left := by
    intro earlier found left later split last location entry there _
    rw [told] at split
    obtain ⟨middle, split⟩ := split_behind worked.mem_lent split
    rwa [handed.last_left split last] at there
  came := by
    intro idle location entry found
    have same : after.disk = mid.disk :=
      handed.idle fun found left member => idle found left (by simp [told, member])
    exact worked.came location entry (same ▸ found)

/-- Work on a file, then a copy that goes through the hands of others and is removed. -/
theorem tidy_of_copy {source copy : Path} {folder : Location} {name : Bytes} {file : File} {last : World}
    (worked : Worked before mid target events) (made : Temporary.Made mid source copy folder name)
    (shape : ∃ number, name = ScopedCopy.nameStart ++ serial number ++ ScopedCopy.nameEnding)
    (handed : HandedOn (mid.disk.put (folder ++ [name]) (.file file)) rest last.disk)
    (base : last.host = before.host) (removed : after = Temporary.remove copy last)
    (told : after.events = events ++ .made copy :: rest) :
    Tidy (fun location => target = some location) before after where
  copies := by
    intro other member isCopy others
    have same : other = copy := by
      rw [told] at member
      rcases List.mem_append.mp member with early | late
      · exact ((worked.gone other early).2.not_both isCopy).elim
      · rcases List.mem_cons.mp late with same | later
        · exact Event.made.inj same
        · exact (handed.not_made other later).elim
    subst same
    rw [removed, ← base]
    refine Temporary.remove_not_holds ?_
    -- Nobody through whose hands the disk goes leaves a folder at the path of the copy.
    refine handed.induct (motive := fun disk => disk.holdsFolder last.host.folder other = false) ?_ ?_
    · have filled := made.find_filled file false
      rw [worked.host_eq, ← base] at filled
      simp [holdsFolder, filled]
    · intro found left lent _
      rw [base]
      exact others found left (by simp [told, lent])
  writes := by
    intro temporary member isWrite others
    have early : .made temporary ∈ events := by
      rw [told] at member
      rcases List.mem_append.mp member with early | late
      · exact early
      · rcases List.mem_cons.mp late with same | later
        · cases same
          exact (isWrite (made.isNamed shape)).elim
        · exact (handed.not_made temporary later).elim
    obtain ⟨gone, named⟩ := worked.gone temporary early
    have beside := made.not_holds_beside (made.isNamed shape) named file gone
    rw [worked.host_eq] at beside
    have absent : last.disk.holds before.host.folder temporary = false :=
      handed.induct (motive := fun disk => disk.holds before.host.folder temporary = false) beside
        fun found left lent => others found left (by simp [told, lent])
    rw [removed]
    rw [← base] at absent ⊢
    exact Temporary.remove_not_holds_other absent
  kept := by
    intro location entry found unchanged others
    rcases worked.kept location entry found with same | ⟨changed, -⟩
    · have different : location.getLast? ≠ some name := by
        intro named
        rw [get?_of_isFresh made.fresh named] at same
        cases same
      have apart : location ≠ folder ++ [name] := by
        rintro rfl
        simp at different
      rw [removed, Temporary.get?_remove made.plain.notDot made.plain.notDots made.last made.unclosed different]
      refine handed.induct (motive := fun disk => disk.get? location = some entry) ?_ ?_
      · rw [get?_put_of_ne _ _ _ _ apart, same]
      · intro found left lent same
        rw [others found left (by simp [told, lent]), same]
    · exact (unchanged changed).elim
  left := by
    intro earlier found left later split end_ location entry there apart
    have different : location.getLast? ≠ some name := by
      rw [← made.last]
      exact apart copy (by simp [told])
    rw [removed, Temporary.get?_remove made.plain.notDot made.plain.notDots made.last made.unclosed different]
    rw [told] at split
    obtain ⟨middle, split⟩ := split_behind worked.mem_lent split
    cases middle with
    | nil => cases split
    | cons _ others =>
        cases split
        rwa [handed.last_left rfl end_] at there
  came := by
    intro idle location entry found
    have same : last.disk = mid.disk.put (folder ++ [name]) (.file file) :=
      handed.idle fun found left member => idle found left (by simp [told, member])
    have cleared : after.disk = mid.disk := by
      rw [removed, made.remove_disk file same (by rw [base, worked.host_eq])]
    exact worked.came location entry (cleared ▸ found)

end

theorem Services.handedOn_running (services : Services) (invocation : Invocation) (world : World) :
    HandedOn world.disk (services.running invocation world) (services.run invocation world).2.disk :=
  .asked (by simp) (by simp) (.lent (.kept _))

theorem ScopedCopy.Filled.handedOn {world filled : World} {source copy : Path} {folder : Location} {name : Bytes}
    {file : File} (is : Filled world source copy folder name file filled) (user : Text) (owned : World) :
    HandedOn (world.disk.put (folder ++ [name]) (.file file))
      [.ownerChanged copy user (some file.bytes), .lent filled.disk owned.disk] owned.disk := by
  have same : filled.disk = world.disk.put (folder ++ [name]) (.file file) := congrArg World.disk is.stands
  rw [← same]
  exact .asked (by simp) (by simp) (.lent (.kept _))

theorem tidy_refl {changes : Location → Prop} {world : World} (fresh : world.events = []) :
    Tidy changes world world where
  copies := by simp [fresh]
  writes := by simp [fresh]
  kept := fun _ _ found _ _ => found
  left := by simp [fresh]
  came := fun _ _ _ found => Or.inl found

theorem tidy_of_changes {before after : World} (fresh : after.events = []) :
    Tidy (fun _ => True) before after where
  copies := by simp [fresh]
  writes := by simp [fresh]
  kept := fun _ _ _ unchanged => (unchanged trivial).elim
  left := by simp [fresh]
  came := fun _ _ _ _ => Or.inr (Or.inr trivial)

theorem tidy_mono {changes more : Location → Prop} {before after : World} (tidy : Tidy changes before after)
    (wider : ∀ location, changes location → more location) : Tidy more before after where
  copies := tidy.copies
  writes := tidy.writes
  kept := fun location entry found unchanged =>
    tidy.kept location entry found fun changed => unchanged (wider location changed)
  left := tidy.left
  came := fun idle location entry found =>
    (tidy.came idle location entry found).imp_right (Or.imp_right (wider location))

theorem tidy_of_worked {before after : World} {target : Option Location} {events : List Event}
    (worked : Worked before after target events) (fresh : before.events = []) :
    Tidy (fun location => target = some location) before after := by
  refine tidy_of_handed worked (.kept _) ?_
  rw [worked.events_eq, fresh, List.nil_append, List.append_nil]

namespace Services

theorem Course.tidy {services : Services} {plan : Plan} {user : Option Text} {keepOwner : Bool}
    {invocation : Option Path → Invocation} {world : World} {ended : Except Failure (Option Outcome) × World}
    {events : List Event} (course : Course services plan user keepOwner invocation world ended events)
    (fresh : world.events = []) :
    Tidy (fun location => plan.source.bind (services.cache.target? world) = some location) world ended.2 := by
  have told := course.events_eq
  rw [fresh, List.nil_append] at told
  have target : ∀ {source answer mid before}, Acquired services plan world source answer mid before →
      plan.source.bind (services.cache.target? world) = services.cache.target? world source := by
    intro source answer mid before acquired
    rw [acquired.given]
    rfl
  cases course with
  | bare bare =>
      refine tidy_of_handed (worked_nothing _ _) (services.handedOn_running _ _) ?_
      rw [told, List.nil_append]
  | unacquired acquired =>
      rw [target acquired]
      exact tidy_of_worked acquired.worked fresh
  | missing acquired =>
      rw [target acquired]
      exact tidy_of_worked acquired.worked fresh
  | direct acquired own =>
      rw [target acquired]
      exact tidy_of_handed acquired.worked (services.handedOn_running _ _) told
  | unmade acquired =>
      rw [target acquired]
      exact tidy_of_worked acquired.worked fresh
  | unfilled acquired made shape =>
      rw [target acquired]
      refine tidy_of_copy acquired.worked made shape (.kept _) ?_
        (Temporary.remove_filled made Temporary.emptyFile [.made _]).symm told
      rw [World.moved_host, acquired.worked.host_eq]
  | unowned acquired isFilled handed =>
      rw [target acquired]
      have base := congrArg World.host (isFilled.handed handed).1
      rw [World.moved_host, acquired.worked.host_eq] at base
      exact tidy_of_copy acquired.worked isFilled.made isFilled.shape (isFilled.handedOn _ _) base rfl told
  | @copied _ _ copy name _ _ _ _ _ owned _ acquired asked changes isFilled placed handed =>
      rw [target acquired]
      have base := congrArg World.host (isFilled.handed handed).1
      rw [World.moved_host, acquired.worked.host_eq, ← run_host services (invocation (some copy))] at base
      have chain := (isFilled.handedOn name owned).append
        (services.handedOn_running (invocation (some copy)) owned)
      refine tidy_of_copy acquired.worked isFilled.made isFilled.shape chain base rfl ?_
      rw [told, List.append_assoc]
      rfl

end Services

end PipDriver
