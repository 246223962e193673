import PipDriver.Proofs.SharedCache

/-!
What holds of the disk at every moment while several acquire files, and what each of them may do to it: make a
folder on the way to a copy, make, fill and remove a temporary file of its own, and move it to the spot of the
copy.
-/

namespace PipDriver.Company

open Disk

def temporaryName (number : Nat) : Bytes := AtomicFile.nameStart ++ serial number ++ AtomicFile.nameEnding

section Definitions

variable (company : Company)

def temporary (relative : Path) (number : Nat) : Path :=
  Temporary.pathIn company.start (AtomicFile.folderOf company.start (company.copy relative)) (temporaryName number)

structure Passable (relative : Path) : Prop where
  fit : (company.copy relative).Fit
  firm : Firm company.start.disk ((company.copy relative).ways company.base)
  apart : (company.copy relative).spot company.base ∉ (company.copy relative).ways company.base
  proper : company.start.disk.get? ((company.copy relative).spot company.base) ≠ some .folder
  roomy : ∀ number < 1000000, pathFault? (company.temporary relative number) = none

structure Loose (location : Location) : Prop where
  absent : company.start.disk.get? location = none
  named : ∃ number, location.getLast? = some (temporaryName number) ∧ ¬company.Wants (temporaryName number)

inductive Stands (disk : Disk) (location : Location) : Prop
  | kept (same : disk.get? location = company.start.disk.get? location)
  | way {relative : Path} {bytes : ByteArray} (absent : company.start.disk.get? location = none)
      (made : disk.get? location = some .folder) (fetchable : company.Fetchable relative bytes)
      (on : location ∈ (company.copy relative).ways company.base)
  | stored {relative : Path} {bytes : ByteArray} (fetchable : company.Fetchable relative bytes)
      (passable : company.Passable relative) (spot : location = (company.copy relative).spot company.base)
      (held : disk.bytesAt location = some bytes)
  | loose (loose : company.Loose location) {file : File} (held : disk.get? location = some (.file file))

def Sound (disk : Disk) : Prop := ∀ location, company.Stands disk location

structure Onward (before after : Disk) : Prop where
  folders : ∀ location, before.get? location = some .folder → after.get? location = some .folder
  copies : ∀ location name old, location.getLast? = some name → company.Wants name →
    before.bytesAt location = some old → after.bytesAt location = some old ∨
      ∃ names bytes, location = company.home ++ names ∧
        company.start.disk.bytesAt (company.source ++ names) = some bytes ∧ after.bytesAt location = some bytes

structure Allows (held taken : Option Location) (before after : Disk) : Prop where
  sound : company.Sound after
  onward : company.Onward before after
  others : ∀ location, company.Loose location → held ≠ some location → taken ≠ some location →
    after.get? location = before.get? location
  dropped : ∀ location, held = some location → taken ≠ some location → after.get? location = none
  took : ∀ location, taken = some location → company.Loose location ∧ after.get? location ≠ none ∧
    (held = some location ∨ before.get? location = none)

end Definitions

variable {company : Company} {disk before between after : Disk} {location : Location} {relative : Path}
  {bytes old : ByteArray}

theorem Loose.not_wanted (loose : company.Loose location) {name : Bytes} (last : location.getLast? = some name)
    (wanted : company.Wants name) : False := by
  obtain ⟨number, named, unwanted⟩ := loose.named
  rw [last, Option.some.injEq] at named
  exact unwanted (named ▸ wanted)

theorem Loose.ne_nil (loose : company.Loose location) : location ≠ [] := by
  rintro rfl
  obtain ⟨number, named, -⟩ := loose.named
  cases named

theorem Asked.way_wanted (asked : company.Asked relative)
    (on : location ∈ (company.copy relative).ways company.base) :
    ∃ name, location.getLast? = some name ∧ company.Wants name := by
  obtain ⟨name, member, last⟩ := named_of_stop _ on
  exact ⟨name, last, asked.wants_of_copy (List.dropLast_subset _ member)⟩

theorem Asked.last_wanted (asked : company.Asked relative) (given : core relative.route.names ≠ []) (front : Location) :
    ∃ name, (front ++ core relative.route.names).getLast? = some name ∧ company.Wants name := by
  have last := List.getLast?_eq_some_getLast given
  refine ⟨_, ?_, asked.wants (List.mem_filter.mp (List.mem_of_getLast? last)).1⟩
  rw [List.getLast?_append, last, Option.some_or]

theorem Fetchable.core_ne_nil (settled : company.Settled) (fetchable : company.Fetchable relative bytes) :
    core relative.route.names ≠ [] := by
  obtain ⟨⟨last, -, plain, there⟩, -⟩ := fetchable.names settled
  exact List.ne_nil_of_mem (List.mem_filter.mpr ⟨List.mem_of_getLast? there, by simpa using plain.notDot⟩)

theorem Fetchable.spot_wanted (settled : company.Settled) (fetchable : company.Fetchable relative bytes) :
    ∃ name, ((company.copy relative).spot company.base).getLast? = some name ∧ company.Wants name := by
  rw [fetchable.asked.copy_spot]
  exact fetchable.asked.last_wanted (fetchable.core_ne_nil settled) _

theorem Fetchable.bytesAt_source (settled : company.Settled) (fetchable : company.Fetchable relative bytes) :
    company.start.disk.bytesAt (company.source ++ core relative.route.names) = some bytes := by
  rw [← fetchable.asked.resource_spot]
  exact (settled.start_contents.mp fetchable.upstream).2.2

section Sound

variable (sound : company.Sound disk)
include sound

theorem Sound.folder (found : company.start.disk.get? location = some .folder) :
    disk.get? location = some .folder := by
  cases sound location with
  | kept same => rw [same, found]
  | way absent => simp [absent] at found
  | stored _ passable spot => exact (passable.proper (spot ▸ found)).elim
  | loose loose => simp [loose.absent] at found

theorem Sound.firm (found : disk.get? location = some .folder) :
    company.start.disk.get? location = none ∨ company.start.disk.get? location = some .folder := by
  cases sound location with
  | kept same => exact Or.inr (same ▸ found)
  | way absent => exact Or.inl absent
  | stored _ _ _ held => simp [bytesAt, found] at held
  | loose _ held => simp [found] at held

theorem Sound.absent (free : disk.get? location = none) : company.start.disk.get? location = none := by
  cases sound location with
  | kept same => rw [← same, free]
  | way absent => exact absent
  | stored _ _ _ held => simp [bytesAt, free] at held
  | loose loose => exact loose.absent

theorem Sound.linkFree (settled : company.Settled) : disk.LinkFree := by
  intro location target linked
  cases sound location with
  | kept same => exact settled.linkFree location target (same ▸ linked)
  | way _ made => simp [made] at linked
  | stored _ _ _ held => simp [bytesAt, linked] at held
  | loose _ held => simp [held] at linked

/-- Where a resource lies, nobody writes. -/
theorem Sound.bytesAt_source (settled : company.Settled) (asked : company.Asked relative)
    (given : core relative.route.names ≠ []) :
    disk.bytesAt (company.source ++ core relative.route.names) =
      company.start.disk.bytesAt (company.source ++ core relative.route.names) := by
  cases sound (company.source ++ core relative.route.names) with
  | kept same => exact bytesAt_congr same
  | way absent made => simp [bytesAt, absent, made]
  | @stored other _ fetchable _ spot =>
      rw [fetchable.asked.copy_spot] at spot
      have first : company.source <+: company.home ++ core other.route.names := ⟨_, spot⟩
      rcases List.prefix_or_prefix_of_prefix first (List.prefix_append _ _) with under | above
      · exact (settled.apart.1 under).elim
      · exact (settled.apart.2 above).elim
  | loose loose =>
      obtain ⟨name, last, wanted⟩ := asked.last_wanted given company.source
      exact (loose.not_wanted last wanted).elim

/-- Below the cache, where no temporary file is, is what was there at the start, or what is upstream. -/
theorem Sound.bytesAt_below (settled : company.Settled) {names : List Bytes}
    (lasting : ¬company.Loose (company.home ++ names)) :
    disk.bytesAt (company.home ++ names) = company.start.disk.bytesAt (company.home ++ names) ∨
      ∃ bytes, company.start.disk.bytesAt (company.source ++ names) = some bytes ∧
        disk.bytesAt (company.home ++ names) = some bytes := by
  cases sound (company.home ++ names) with
  | kept same => exact Or.inl (bytesAt_congr same)
  | way absent made => simp [bytesAt, absent, made]
  | stored fetchable _ spot there =>
      rw [fetchable.asked.copy_spot, List.append_cancel_left_eq] at spot
      exact Or.inr ⟨_, spot ▸ fetchable.bytesAt_source settled, there⟩
  | loose loose => exact (lasting loose).elim

/-- At the spot of a copy is what was there at the start, or what is upstream. -/
theorem Sound.bytesAt_home (settled : company.Settled) (asked : company.Asked relative)
    (given : core relative.route.names ≠ [])
    (held : disk.bytesAt (company.home ++ core relative.route.names) = some old) :
    company.start.disk.bytesAt (company.home ++ core relative.route.names) = some old ∨
      company.start.disk.bytesAt (company.source ++ core relative.route.names) = some old := by
  have lasting : ¬company.Loose (company.home ++ core relative.route.names) := by
    obtain ⟨name, last, wanted⟩ := asked.last_wanted given company.home
    exact fun loose => loose.not_wanted last wanted
  rcases sound.bytesAt_below settled lasting with same | ⟨bytes, upstream, there⟩
  · exact Or.inl (same ▸ held)
  · rw [there] at held
    exact Or.inr (held ▸ upstream)

end Sound

theorem Sound.contents?_resource (settled : company.Settled) (sound : company.Sound disk)
    (asked : company.Asked relative) :
    disk.contents? company.base (company.resource relative) = company.start.contents? (company.resource relative) := by
  apply Option.ext
  intro bytes
  rw [Path.contents?_iff (sound.linkFree settled), settled.start_contents, asked.resource_spot]
  obtain ⟨front, last, split, inside, -, ways⟩ := asked.split
  have lasts : (company.resource relative).Fit → core relative.route.names = core front ++ [last] := by
    intro fit
    obtain ⟨final, there, plain⟩ := fit.last
    rw [resource, (Path.route_join_relative _ asked.inside.1).1, split, ← List.append_assoc, List.getLast?_concat,
      Option.some.injEq] at there
    have notDot := there ▸ plain.notDot
    simp [core, split, notDot]
  constructor
  · rintro ⟨fit, folders, held⟩
    have named := lasts fit
    rw [sound.bytesAt_source settled asked (by simp [named])] at held
    refine ⟨fit, ?_, held⟩
    intro way on
    have folder := folders way on
    rw [ways] at on
    rcases List.mem_append.mp on with early | late
    · cases sound way with
      | kept same => rw [← same, folder]
      | way _ _ fetchable _ =>
          -- Somebody could fetch what lies below the same root, so that the way to it was there.
          obtain ⟨_, _, -, -, -, others⟩ := fetchable.asked.split
          obtain ⟨-, through, -⟩ := settled.start_contents.mp fetchable.upstream
          exact through way (by rw [others]; exact List.mem_append_left _ early)
      | stored _ _ _ there => simp [bytesAt, folder] at there
      | loose _ there => simp [folder] at there
    · obtain ⟨part, -, ⟨rest, whole⟩, rfl⟩ := (mem_stops_inside _ inside).mp late
      refine settled.tree.folder_above _ (rest ++ [last]) (by simp) ?_
      rw [named, ← whole] at held
      intro none
      rw [bytesAt, List.append_assoc, ← List.append_assoc company.source, none] at held
      cases held
  · rintro ⟨fit, folders, held⟩
    rw [sound.bytesAt_source settled asked (by simp [lasts fit])]
    exact ⟨fit, fun way on => sound.folder (folders way on), held⟩

section Onward

theorem Onward.refl (company : Company) (disk : Disk) : company.Onward disk disk :=
  ⟨fun _ found => found, fun _ _ _ _ _ held => Or.inl held⟩

theorem Onward.trans (first : company.Onward before between) (second : company.Onward between after) :
    company.Onward before after where
  folders := fun location found => second.folders location (first.folders location found)
  copies := by
    intro location name old last wanted held
    rcases first.copies location name old last wanted held with same | ⟨names, bytes, spot, given, renewed⟩
    · exact second.copies location name old last wanted same
    · rcases second.copies location name bytes last wanted renewed with same | further
      · exact Or.inr ⟨names, bytes, spot, given, same⟩
      · exact Or.inr further

/-- At the path of a copy that is there, one is also later: the same, or that of what is upstream. -/
theorem Onward.contents? (onward : company.Onward before after) (asked : company.Asked relative)
    (linkFree : before.LinkFree) (later : after.LinkFree)
    (held : before.contents? company.base (company.copy relative) = some old) :
    after.contents? company.base (company.copy relative) = some old ∨
      ∃ bytes, company.start.disk.bytesAt (company.source ++ core relative.route.names) = some bytes ∧
        after.contents? company.base (company.copy relative) = some bytes := by
  obtain ⟨fit, folders, there⟩ := (Path.contents?_iff linkFree).mp held
  have onFolders : ∀ way ∈ (company.copy relative).ways company.base, after.get? way = some .folder :=
    fun way on => onward.folders way (folders way on)
  obtain ⟨front, last, split, -, -, spot⟩ := fit.split company.base
  have wanted : company.Wants last := asked.wants_of_copy (by simp [split])
  have named : ((company.copy relative).spot company.base).getLast? = some last := by simp [spot]
  rw [Path.contents?_iff later]
  rcases onward.copies _ last old named wanted there with same | ⟨names, bytes, place, given, renewed⟩
  · exact Or.inl ⟨fit, onFolders, same⟩
  · rw [asked.copy_spot, List.append_cancel_left_eq] at place
    exact Or.inr ⟨bytes, place ▸ given, (Path.contents?_iff later).mpr ⟨fit, onFolders, renewed⟩⟩

end Onward

section Moves

theorem Stands.congr (stands : company.Stands before location) (same : after.get? location = before.get? location) :
    company.Stands after location := by
  cases stands with
  | kept as => exact .kept (same.trans as)
  | way absent made fetchable on => exact .way absent (same.trans made) fetchable on
  | stored fetchable passable spot held => exact .stored fetchable passable spot ((bytesAt_congr same).trans held)
  | loose loose held => exact .loose loose (same.trans held)

structure Renewed (company : Company) (held taken : Option Location) (before after : Disk) (location : Location) :
    Prop where
  stands : company.Stands after location
  proper : before.get? location ≠ some .folder
  own : company.Loose location → held = some location ∨ taken = some location
  copies : before.bytesAt location = none ∨ company.Loose location ∨
    ∃ names bytes, location = company.home ++ names ∧
      company.start.disk.bytesAt (company.source ++ names) = some bytes ∧ after.bytesAt location = some bytes

theorem allows_of_each {held taken : Option Location} (sound : company.Sound before)
    (each : ∀ location, after.get? location = before.get? location ∨
      company.Renewed held taken before after location)
    (dropped : ∀ location, held = some location → taken ≠ some location → after.get? location = none)
    (took : ∀ location, taken = some location → company.Loose location ∧ after.get? location ≠ none ∧
      (held = some location ∨ before.get? location = none)) : company.Allows held taken before after where
  sound := by
    intro location
    rcases each location with same | new
    · exact (sound location).congr same
    · exact new.stands
  onward := by
    constructor
    · intro location found
      rcases each location with same | new
      · rwa [same]
      · exact (new.proper found).elim
    · intro location name old last wanted there
      rcases each location with same | new
      · exact Or.inl (bytesAt_congr same ▸ there)
      · rcases new.copies with free | loose | upstream
        · simp [free] at there
        · exact (loose.not_wanted last wanted).elim
        · exact Or.inr upstream
  others := by
    intro location loose notHeld notTaken
    rcases each location with same | new
    · exact same
    · rcases new.own loose with is | is
      · exact (notHeld is).elim
      · exact (notTaken is).elim
  dropped := dropped
  took := took

variable {file old : File} {spot : Location}

theorem allows_still {held : Option Location} (sound : company.Sound disk)
    (own : ∀ location, held = some location → company.Loose location ∧ disk.get? location ≠ none) :
    company.Allows held held disk disk :=
  allows_of_each sound (fun _ => Or.inl rfl) (fun _ is other => (other is).elim)
    (fun location is => ⟨(own location is).1, (own location is).2, Or.inl is⟩)

theorem allows_nothing (sound : company.Sound disk) : company.Allows none none disk disk :=
  allows_still sound (by rintro _ ⟨⟩)

section Sound

variable (sound : company.Sound before)
include sound

theorem allows_folder (fetchable : company.Fetchable relative bytes)
    (on : location ∈ (company.copy relative).ways company.base) (below : location ≠ [])
    (free : before.get? location = none) : company.Allows none none before (before.put location .folder) := by
  refine allows_of_each sound ?_ (by rintro _ ⟨⟩) (by rintro _ ⟨⟩)
  intro other
  by_cases same : other = location
  · subst same
    refine Or.inr ⟨.way (sound.absent free) (get?_put_self _ _ _ below) fetchable on, by simp [free], ?_,
      Or.inl (by simp [bytesAt, free])⟩
    intro loose
    obtain ⟨name, last, wanted⟩ := fetchable.asked.way_wanted on
    exact (loose.not_wanted last wanted).elim
  · exact Or.inl (get?_put_of_ne _ _ _ _ same)

theorem allows_make (loose : company.Loose location) (free : before.get? location = none) :
    company.Allows none (some location) before (before.put location (.file file)) := by
  have there : (before.put location (.file file)).get? location = some (.file file) :=
    get?_put_self _ _ _ loose.ne_nil
  refine allows_of_each sound ?_ (by rintro _ ⟨⟩) ?_
  · intro other
    by_cases same : other = location
    · subst same
      exact Or.inr ⟨.loose loose there, by simp [free], fun _ => Or.inr rfl, Or.inr (Or.inl loose)⟩
    · exact Or.inl (get?_put_of_ne _ _ _ _ same)
  · rintro _ ⟨⟩
    exact ⟨loose, by simp [there], Or.inr free⟩

variable (loose : company.Loose location) (held : before.get? location = some (.file old))
include loose held

theorem allows_fill : company.Allows (some location) (some location) before (before.put location (.file file)) := by
  have there : (before.put location (.file file)).get? location = some (.file file) :=
    get?_put_self _ _ _ loose.ne_nil
  refine allows_of_each sound ?_ (fun _ is other => (other is).elim) ?_
  · intro other
    by_cases same : other = location
    · subst same
      exact Or.inr ⟨.loose loose there, by simp [held], fun _ => Or.inr rfl, Or.inr (Or.inl loose)⟩
    · exact Or.inl (get?_put_of_ne _ _ _ _ same)
  · rintro _ ⟨⟩
    exact ⟨loose, by simp [there], Or.inl rfl⟩

theorem allows_drop : company.Allows (some location) none before (before.erase location) := by
  refine allows_of_each sound ?_ ?_ (by rintro _ ⟨⟩)
  · intro other
    by_cases same : other = location
    · subst same
      refine Or.inr ⟨.kept ?_, by simp [held], fun _ => Or.inl rfl, Or.inr (Or.inl loose)⟩
      rw [get?_erase_self _ _ loose.ne_nil, loose.absent]
    · exact Or.inl (get?_erase_of_ne _ _ _ same)
  · rintro _ ⟨⟩ -
    exact get?_erase_self _ _ loose.ne_nil

theorem allows_move (settled : company.Settled) (fetchable : company.Fetchable relative old.bytes)
    (passable : company.Passable relative)
    (proper : before.get? ((company.copy relative).spot company.base) ≠ some .folder) :
    company.Allows (some location) none before
      ((before.erase location).put ((company.copy relative).spot company.base) (.file old)) := by
  obtain ⟨name, last, wanted⟩ := fetchable.spot_wanted settled
  have below : (company.copy relative).spot company.base ≠ [] := by
    intro empty
    simp [empty] at last
  have apart : location ≠ (company.copy relative).spot company.base := by
    rintro rfl
    exact loose.not_wanted last wanted
  have gone : ((before.erase location).put ((company.copy relative).spot company.base) (.file old)).get? location =
      none := by
    rw [get?_put_of_ne _ _ _ _ apart, get?_erase_self _ _ loose.ne_nil]
  have there : ((before.erase location).put ((company.copy relative).spot company.base) (.file old)).bytesAt
      ((company.copy relative).spot company.base) = some old.bytes := by
    simp [bytesAt, get?_put_self _ _ _ below]
  refine allows_of_each sound ?_ ?_ (by rintro _ ⟨⟩)
  · intro other
    by_cases moved : other = (company.copy relative).spot company.base
    · subst moved
      refine Or.inr ⟨.stored fetchable passable rfl there, proper,
        fun loose => (loose.not_wanted last wanted).elim, Or.inr (Or.inr ?_)⟩
      exact ⟨_, old.bytes, fetchable.asked.copy_spot, fetchable.bytesAt_source settled, there⟩
    · by_cases same : other = location
      · subst same
        exact Or.inr ⟨.kept (by rw [gone, loose.absent]), by simp [held], fun _ => Or.inl rfl, Or.inr (Or.inl loose)⟩
      · exact Or.inl (by rw [get?_put_of_ne _ _ _ _ moved, get?_erase_of_ne _ _ _ same])
  · rintro _ ⟨⟩ -
    exact gone

end Sound

end Moves

end PipDriver.Company
