import PipDriver.Disk.Change

/-!
How a walk depends on the disk. A walk that arrives looks only at entries that are there, so it arrives at the
same place on a disk that has more. Where a disk differs at one spot, a walk either never looks there or comes
to the spot with some names left, and what is at the spot decides the rest.
-/

namespace PipDriver

open Bytes (dot)

def Entry.isLeaf : Entry → Bool
  | .file _ => true
  | .device _ => true
  | .folder => false
  | .link _ => false

theorem Entry.folder_or_link_or_leaf (entry : Entry) :
    entry = .folder ∨ (∃ target, entry = .link target) ∨ entry.isLeaf = true := by
  cases entry <;> simp [Entry.isLeaf]

namespace Disk

structure Plain (name : Bytes) : Prop where
  notDot : name ≠ [dot]
  notDots : name ≠ [dot, dot]
  short : ¬longestName < name.length

theorem plain_cases (name : Bytes) :
    name = [dot] ∨ name = [dot, dot] ∨ (name ≠ [dot] ∧ name ≠ [dot, dot] ∧ longestName < name.length) ∨
      Plain name := by
  by_cases alone : name = [dot]
  · exact Or.inl alone
  · by_cases dots : name = [dot, dot]
    · exact Or.inr (Or.inl dots)
    · by_cases long : longestName < name.length
      · exact Or.inr (Or.inr (Or.inl ⟨alone, dots, long⟩))
      · exact Or.inr (Or.inr (Or.inr ⟨alone, dots, long⟩))

def passLink (disk : Disk) (followLast : Bool) (links : Nat) (here : Location) (target : Bytes)
    (rest : List Bytes) (closed : Bool) : Except Fault Place :=
  match links with
  | 0 => .error .tooManyLinks
  | fewer + 1 =>
    if target = [] then .error .missing
    else
      let route := Route.ofBytes target
      disk.walk followLast fewer (if route.absolute then [] else here) (route.names ++ rest)
        (closed || (rest = [] && route.closed))

section Steps

variable (disk : Disk) (followLast : Bool) (links : Nat) (here : Location)

theorem walk_eq_descend (names : List Bytes) (closed : Bool) :
    disk.walk followLast links here names closed =
      disk.descend followLast (disk.passLink followLast links) here names closed := by
  cases links with
  | zero => rfl
  | succ fewer => rfl

@[simp] theorem walk_nil (closed : Bool) :
    disk.walk followLast links here [] closed = .ok (.occupied here .folder) := by
  simp [walk_eq_descend, descend]

theorem walk_dot (rest : List Bytes) (closed : Bool) :
    disk.walk followLast links here ([dot] :: rest) closed =
      disk.walk followLast links here rest closed := by
  simp [walk_eq_descend, descend]

theorem walk_dots (rest : List Bytes) (closed : Bool) :
    disk.walk followLast links here ([dot, dot] :: rest) closed =
      disk.walk followLast links here.dropLast rest closed := by
  simp [walk_eq_descend, descend]

theorem walk_long {name : Bytes} (rest : List Bytes) (closed : Bool) (notDot : name ≠ [dot])
    (notDots : name ≠ [dot, dot]) (long : longestName < name.length) :
    disk.walk followLast links here (name :: rest) closed = .error .nameTooLong := by
  simp [walk_eq_descend, descend, notDot, notDots, long]

variable {disk here} {name : Bytes} (plain : Plain name)
include plain

theorem walk_none (rest : List Bytes) (closed : Bool) (found : disk.get? (here ++ [name]) = none) :
    disk.walk followLast links here (name :: rest) closed =
      if rest = [] then .ok (.vacant here name closed) else .error .missing := by
  simp [walk_eq_descend, descend, plain.notDot, plain.notDots, plain.short, found]

theorem walk_folder (rest : List Bytes) (closed : Bool)
    (found : disk.get? (here ++ [name]) = some .folder) :
    disk.walk followLast links here (name :: rest) closed =
      disk.walk followLast links (here ++ [name]) rest closed := by
  simp [walk_eq_descend, descend, plain.notDot, plain.notDots, plain.short, found]

theorem walk_link {target : Bytes} (rest : List Bytes) (closed : Bool)
    (found : disk.get? (here ++ [name]) = some (.link target)) :
    disk.walk followLast links here (name :: rest) closed =
      if rest = [] && !followLast && !closed then .ok (.occupied (here ++ [name]) (.link target))
      else disk.passLink followLast links here target rest closed := by
  simp [walk_eq_descend, descend, plain.notDot, plain.notDots, plain.short, found]

theorem walk_leaf {entry : Entry} (rest : List Bytes) (closed : Bool)
    (found : disk.get? (here ++ [name]) = some entry) (leaf : entry.isLeaf = true) :
    disk.walk followLast links here (name :: rest) closed =
      if rest = [] && !closed then .ok (.occupied (here ++ [name]) entry) else .error .notFolder := by
  cases entry with
  | file file => simp [walk_eq_descend, descend, plain.notDot, plain.notDots, plain.short, found]
  | device device => simp [walk_eq_descend, descend, plain.notDot, plain.notDots, plain.short, found]
  | folder => simp [Entry.isLeaf] at leaf
  | link target => simp [Entry.isLeaf] at leaf

end Steps

/-- Induction along a walk: on the links left, and below that on the names left. -/
@[elab_as_elim]
theorem walk_induction {motive : Nat → Location → List Bytes → Bool → Prop}
    (home : ∀ links here closed, motive links here [] closed)
    (step : ∀ links here name rest closed, (∀ next, motive links next rest closed) →
      (∀ fewer next names asked, links = fewer + 1 → motive fewer next names asked) →
      motive links here (name :: rest) closed)
    (links : Nat) (here : Location) (names : List Bytes) (closed : Bool) :
    motive links here names closed := by
  induction links generalizing here names closed with
  | zero =>
      induction names generalizing here with
      | nil => exact home 0 here closed
      | cons name rest ih =>
          exact step 0 here name rest closed ih (fun _ _ _ _ impossible => by omega)
  | succ fewer below =>
      induction names generalizing here with
      | nil => exact home (fewer + 1) here closed
      | cons name rest ih =>
          refine step (fewer + 1) here name rest closed ih ?_
          intro less next names asked same
          obtain rfl : less = fewer := by omega
          exact below next names asked

theorem passLink_ok {disk : Disk} {followLast : Bool} {links : Nat} {here : Location} {target : Bytes}
    {rest : List Bytes} {closed : Bool} {place : Place}
    (passed : disk.passLink followLast links here target rest closed = .ok place) :
    ∃ fewer, links = fewer + 1 ∧ target ≠ [] := by
  cases links with
  | zero => simp [passLink] at passed
  | succ fewer =>
      refine ⟨fewer, rfl, ?_⟩
      intro empty
      simp [passLink, empty] at passed

theorem passLink_succ (disk : Disk) (followLast : Bool) (fewer : Nat) (here : Location) {target : Bytes}
    (rest : List Bytes) (closed : Bool) (given : target ≠ []) :
    disk.passLink followLast (fewer + 1) here target rest closed =
      disk.walk followLast fewer (if (Route.ofBytes target).absolute then [] else here)
        ((Route.ofBytes target).names ++ rest) (closed || (rest = [] && (Route.ofBytes target).closed)) := by
  simp [passLink, given]

inductive Arrives (disk : Disk) (followLast : Bool) : Nat → Location → List Bytes → Bool → Place → Prop
  | home {links here closed} : Arrives disk followLast links here [] closed (.occupied here .folder)
  | stay {links here rest closed place} : Arrives disk followLast links here rest closed place →
      Arrives disk followLast links here ([dot] :: rest) closed place
  | rise {links here rest closed place} : Arrives disk followLast links here.dropLast rest closed place →
      Arrives disk followLast links here ([dot, dot] :: rest) closed place
  | vacant {links here name closed} : Plain name → disk.get? (here ++ [name]) = none →
      Arrives disk followLast links here [name] closed (.vacant here name closed)
  | folder {links here name rest closed place} : Plain name →
      disk.get? (here ++ [name]) = some .folder →
      Arrives disk followLast links (here ++ [name]) rest closed place →
      Arrives disk followLast links here (name :: rest) closed place
  | link {links here name target} : Plain name → disk.get? (here ++ [name]) = some (.link target) →
      followLast = false →
      Arrives disk followLast links here [name] false (.occupied (here ++ [name]) (.link target))
  | through {fewer here name target rest closed place} : Plain name →
      disk.get? (here ++ [name]) = some (.link target) →
      (rest = [] && !followLast && !closed) = false → target ≠ [] →
      Arrives disk followLast fewer (if (Route.ofBytes target).absolute then [] else here)
        ((Route.ofBytes target).names ++ rest) (closed || (rest = [] && (Route.ofBytes target).closed)) place →
      Arrives disk followLast (fewer + 1) here (name :: rest) closed place
  | leaf {links here name entry} : Plain name → disk.get? (here ++ [name]) = some entry →
      entry.isLeaf = true →
      Arrives disk followLast links here [name] false (.occupied (here ++ [name]) entry)

section Arrivals

variable {disk : Disk} {followLast : Bool} {links : Nat} {here : Location} {names : List Bytes}
  {closed : Bool} {place : Place}

theorem Arrives.walk_eq (arrives : Arrives disk followLast links here names closed place) :
    disk.walk followLast links here names closed = .ok place := by
  induction arrives with
  | home => exact walk_nil _ _ _ _ _
  | stay _ ih => rw [walk_dot, ih]
  | rise _ ih => rw [walk_dots, ih]
  | vacant plain found => simp [walk_none _ _ plain _ _ found]
  | folder plain found _ ih => rw [walk_folder _ _ plain _ _ found, ih]
  | link plain found kept => simp [walk_link _ _ plain _ _ found, kept]
  | through plain found onward given _ ih =>
      rw [walk_link _ _ plain _ _ found, onward, passLink_succ _ _ _ _ _ _ given, ih]
      rfl
  | leaf plain found leaf => simp [walk_leaf _ _ plain _ _ found leaf]

theorem arrives_of_walk (arrived : disk.walk followLast links here names closed = .ok place) :
    Arrives disk followLast links here names closed place := by
  induction links, here, names, closed using walk_induction with
  | home links here closed =>
      simp only [walk_nil, Except.ok.injEq] at arrived
      exact arrived ▸ .home
  | step links here name rest closed onward below =>
      rcases plain_cases name with rfl | rfl | ⟨notDot, notDots, long⟩ | plain
      · exact .stay (onward here (by simpa only [walk_dot] using arrived))
      · exact .rise (onward here.dropLast (by simpa only [walk_dots] using arrived))
      · simp [walk_long _ _ _ _ _ _ notDot notDots long] at arrived
      · cases found : disk.get? (here ++ [name]) with
        | none =>
            rw [walk_none _ _ plain rest closed found] at arrived
            split at arrived
            · rename_i last
              simp only [Except.ok.injEq] at arrived
              subst last arrived
              exact .vacant plain found
            · simp at arrived
        | some there =>
            rcases there.folder_or_link_or_leaf with rfl | ⟨target, rfl⟩ | leaf
            · rw [walk_folder _ _ plain rest closed found] at arrived
              exact .folder plain found (onward _ arrived)
            · rw [walk_link _ _ plain rest closed found] at arrived
              split at arrived
              · rename_i last
                simp only [Bool.and_eq_true, decide_eq_true_eq, Bool.not_eq_true'] at last
                simp only [Except.ok.injEq] at arrived
                obtain ⟨⟨rfl, kept⟩, rfl⟩ := last
                exact arrived ▸ .link plain found kept
              · rename_i passed
                obtain ⟨fewer, rfl, given⟩ := passLink_ok arrived
                rw [passLink_succ _ _ _ _ _ _ given] at arrived
                exact .through plain found (by simpa using passed) given (below fewer _ _ _ rfl arrived)
            · rw [walk_leaf _ _ plain rest closed found leaf] at arrived
              split at arrived
              · rename_i last
                simp only [Bool.and_eq_true, decide_eq_true_eq, Bool.not_eq_true'] at last
                simp only [Except.ok.injEq] at arrived
                obtain ⟨rfl, rfl⟩ := last
                exact arrived ▸ .leaf plain found leaf
              · simp at arrived

def Holds (disk : Disk) : Place → Prop
  | .occupied location entry => entry = .folder ∨ disk.get? location = some entry
  | .vacant folder name _ => disk.get? (folder ++ [name]) = none ∧ Plain name

theorem Arrives.holds (arrives : Arrives disk followLast links here names closed place) :
    disk.Holds place := by
  induction arrives with
  | home => exact Or.inl rfl
  | stay _ ih => exact ih
  | rise _ ih => exact ih
  | vacant plain found => exact ⟨found, plain⟩
  | folder _ _ _ ih => exact ih
  | link _ found _ => exact Or.inr found
  | through _ _ _ _ _ ih => exact ih
  | leaf _ found _ => exact Or.inr found

end Arrivals

def KeptOff (before after : Disk) (spot : Location) : Prop :=
  ∀ location entry, location ≠ spot → before.get? location = some entry → after.get? location = some entry

theorem KeptOff.refl (disk : Disk) (spot : Location) : KeptOff disk disk spot :=
  fun _ _ _ found => found

def KeepsCourse (before after : Disk) (spot : Location) (place : Place) : Prop :=
  KeptOff before after spot ∧
    ∀ folder last asked, place = .vacant folder last asked → folder ++ [last] ≠ spot →
      after.get? (folder ++ [last]) = none

theorem KeptOff.keepsCourse_occupied {before after : Disk} {spot : Location}
    (kept : KeptOff before after spot) (location : Location) (entry : Entry) :
    KeepsCourse before after spot (.occupied location entry) :=
  ⟨kept, fun _ _ _ same => nomatch same⟩

theorem passes_of_stricter {followLast mode closed : Bool} {rest : List Bytes}
    (onward : (rest = [] && !followLast && !closed) = false) (stricter : followLast = true → mode = true) :
    (rest = [] && !mode && !closed) = false := by
  cases followLast with
  | true => simp [stricter rfl]
  | false => cases mode <;> simp_all

/-- A walk that arrives either ends alike on every disk that keeps its course off a spot, or comes to the spot
with some names left on every such disk, and also when it is to follow a last link. -/
theorem Arrives.dichotomy {before : Disk} {followLast : Bool} {links : Nat} {here : Location}
    {names : List Bytes} {closed : Bool} {place : Place}
    (arrives : Arrives before followLast links here names closed place) (folder : Location) (name : Bytes) :
    (∀ after, KeepsCourse before after (folder ++ [name]) place →
      after.walk followLast links here names closed = .ok place) ∨
    (Plain name ∧ ∃ left rest asked, ∀ after mode, (followLast = true → mode = true) →
      KeptOff before after (folder ++ [name]) →
      after.walk mode links here names closed = after.walk mode left folder (name :: rest) asked) := by
  induction arrives with
  | home => exact Or.inl fun after _ => walk_nil _ _ _ _ _
  | stay _ ih => simpa only [walk_dot] using ih
  | rise _ ih => simpa only [walk_dots] using ih
  | @vacant links here last closed plain found =>
      by_cases same : here ++ [last] = folder ++ [name]
      · obtain ⟨rfl, rfl⟩ := List.append_singleton_inj.mp same
        exact Or.inr ⟨plain, links, [], closed, fun _ _ _ _ => rfl⟩
      · refine Or.inl fun after keeps => ?_
        simp [walk_none _ _ plain _ _ (keeps.2 _ _ _ rfl same)]
  | @folder links here last rest closed place plain found _ ih =>
      -- The spot is met at this very name, or the rest of the walk decides.
      by_cases same : here ++ [last] = folder ++ [name]
      · obtain ⟨rfl, rfl⟩ := List.append_singleton_inj.mp same
        exact Or.inr ⟨plain, links, rest, closed, fun _ _ _ _ => rfl⟩
      · rcases ih with steady | ⟨plainName, left, others, asked, course⟩
        · refine Or.inl fun after keeps => ?_
          rw [walk_folder _ _ plain _ _ (keeps.1 _ _ same found), steady after keeps]
        · refine Or.inr ⟨plainName, left, others, asked, fun after mode stricter kept => ?_⟩
          rw [walk_folder _ _ plain _ _ (kept _ _ same found), course after mode stricter kept]
  | @link links here last target plain found noFollow =>
      by_cases same : here ++ [last] = folder ++ [name]
      · obtain ⟨rfl, rfl⟩ := List.append_singleton_inj.mp same
        exact Or.inr ⟨plain, links, [], false, fun _ _ _ _ => rfl⟩
      · refine Or.inl fun after keeps => ?_
        simp [walk_link _ _ plain _ _ (keeps.1 _ _ same found), noFollow]
  | @through fewer here last target rest closed place plain found onward given _ ih =>
      by_cases same : here ++ [last] = folder ++ [name]
      · obtain ⟨rfl, rfl⟩ := List.append_singleton_inj.mp same
        exact Or.inr ⟨plain, fewer + 1, rest, closed, fun _ _ _ _ => rfl⟩
      · rcases ih with steady | ⟨plainName, left, others, asked, course⟩
        · refine Or.inl fun after keeps => ?_
          rw [walk_link _ _ plain _ _ (keeps.1 _ _ same found), onward,
            passLink_succ _ _ _ _ _ _ given, steady after keeps]
          rfl
        · refine Or.inr ⟨plainName, left, others, asked, fun after mode stricter kept => ?_⟩
          rw [walk_link _ _ plain _ _ (kept _ _ same found), passes_of_stricter onward stricter,
            passLink_succ _ _ _ _ _ _ given]
          exact course after mode stricter kept
  | @leaf links here last entry plain found leaf =>
      by_cases same : here ++ [last] = folder ++ [name]
      · obtain ⟨rfl, rfl⟩ := List.append_singleton_inj.mp same
        exact Or.inr ⟨plain, links, [], false, fun _ _ _ _ => rfl⟩
      · refine Or.inl fun after keeps => ?_
        simp [walk_leaf _ _ plain _ _ (keeps.1 _ _ same found) leaf]

theorem Arrives.grow {before after : Disk} {followLast : Bool} {links : Nat} {here location : Location}
    {names : List Bytes} {closed : Bool} {entry : Entry}
    (kept : ∀ location entry, before.get? location = some entry → after.get? location = some entry)
    (arrives : Arrives before followLast links here names closed (.occupied location entry)) :
    Arrives after followLast links here names closed (.occupied location entry) := by
  generalize same : Place.occupied location entry = place at arrives ⊢
  induction arrives with
  | home => exact .home
  | stay _ ih => exact .stay (ih same)
  | rise _ ih => exact .rise (ih same)
  | vacant _ _ => cases same
  | folder plain found _ ih => exact .folder plain (kept _ _ found) (ih same)
  | link plain found noFollow => exact .link plain (kept _ _ found) noFollow
  | through plain found onward given _ ih => exact .through plain (kept _ _ found) onward given (ih same)
  | leaf plain found leaf => exact .leaf plain (kept _ _ found) leaf

theorem keptOff_erase (disk : Disk) (spot : Location) : KeptOff disk (disk.erase spot) spot :=
  fun location _ different found => (get?_erase_of_ne disk spot location different).trans found

theorem keptOff_put (disk : Disk) (spot : Location) (entry : Entry) :
    KeptOff disk (disk.put spot entry) spot :=
  fun location _ different found => (get?_put_of_ne disk spot location entry different).trans found

theorem keptOff_between_puts (disk : Disk) (spot : Location) (first second : Entry) :
    KeptOff (disk.put spot first) (disk.put spot second) spot := by
  intro location entry different found
  rw [get?_put_of_ne _ _ _ _ different] at found
  rwa [get?_put_of_ne _ _ _ _ different]

def StopsAt (folder : Location) (name : Bytes) : Place → Prop
  | .occupied location entry => location = folder ++ [name] ∧ entry ≠ .folder
  | .vacant here last _ => here = folder ∧ last = name

theorem Arrives.comes_to {before : Disk} {followLast : Bool} {links : Nat} {here : Location}
    {names : List Bytes} {closed : Bool} {place : Place} {folder : Location} {name : Bytes}
    (arrives : Arrives before followLast links here names closed place)
    (stops : StopsAt folder name place) :
    Plain name ∧ ∃ left rest asked, ∀ after mode, (followLast = true → mode = true) →
      KeptOff before after (folder ++ [name]) →
      after.walk mode links here names closed = after.walk mode left folder (name :: rest) asked := by
  have spot : folder ++ [name] ≠ [] := by simp
  cases place with
  | occupied location entry =>
      obtain ⟨rfl, proper⟩ := stops
      rcases arrives.dichotomy folder name with steady | comes
      · -- Without the entry at the spot, a walk that is steady there would still have to find it.
        have gone := steady (before.erase (folder ++ [name]))
          ((keptOff_erase _ _).keepsCourse_occupied _ _)
        rcases (arrives_of_walk gone).holds with trusted | found
        · exact (proper trusted).elim
        · simp [get?_erase_self _ _ spot] at found
      · exact comes
  | vacant here last asked =>
      obtain ⟨rfl, rfl⟩ := stops
      rcases arrives.dichotomy here last with steady | comes
      · have keeps : KeepsCourse before (before.put (here ++ [last]) .folder) (here ++ [last])
            (.vacant here last asked) := by
          refine ⟨keptOff_put _ _ _, ?_⟩
          rintro _ _ _ ⟨⟩ different
          exact (different rfl).elim
        have filled := steady _ keeps
        have absent := (arrives_of_walk filled).holds.1
        simp [get?_put_self _ _ _ spot] at absent
      · exact comes

theorem walk_at_leaf {disk : Disk} {folder : Location} {name : Bytes} {entry : Entry} (mode : Bool)
    (left : Nat) (rest : List Bytes) (asked : Bool) (plain : Plain name)
    (there : disk.get? (folder ++ [name]) = some entry) (leaf : entry.isLeaf = true) :
    disk.walk mode left folder (name :: rest) asked = .ok (.occupied (folder ++ [name]) entry) ∨
      disk.walk mode left folder (name :: rest) asked = .error .notFolder := by
  rw [walk_leaf _ _ plain _ _ there leaf]
  split
  · exact Or.inl rfl
  · exact Or.inr rfl

def NamedBy (disk : Disk) (names : List Bytes) : Place → Prop
  | .occupied location entry =>
    (location.getLast? = names.getLast? ∧ disk.get? location = some entry) ∨
      (entry = .folder ∧ ∀ last, names.getLast? = some last → last = [dot] ∨ last = [dot, dot])
  | .vacant _ last _ => names.getLast? = some last

theorem NamedBy.cons {disk : Disk} {rest : List Bytes} {place : Place} (name : Bytes) (more : rest ≠ [])
    (named : NamedBy disk rest place) : NamedBy disk (name :: rest) place := by
  obtain ⟨next, others, rfl⟩ := List.exists_cons_of_ne_nil more
  cases place <;> simpa only [NamedBy, List.getLast?_cons_cons] using named

theorem Arrives.namedBy {disk : Disk} {followLast : Bool} {links : Nat} {here : Location}
    {names : List Bytes} {closed : Bool} {place : Place} (noFollow : followLast = false)
    (unclosed : closed = false) (arrives : Arrives disk followLast links here names closed place) :
    NamedBy disk names place := by
  induction arrives with
  | home => exact Or.inr ⟨rfl, by simp⟩
  | @stay _ _ rest _ _ arrives ih =>
      by_cases last : rest = []
      · subst last
        cases arrives
        exact Or.inr ⟨rfl, by simp⟩
      · exact (ih unclosed).cons _ last
  | @rise _ _ rest _ _ arrives ih =>
      by_cases last : rest = []
      · subst last
        cases arrives
        exact Or.inr ⟨rfl, by simp⟩
      · exact (ih unclosed).cons _ last
  | vacant _ _ => rfl
  | @folder _ _ _ rest _ _ _ found arrives ih =>
      by_cases last : rest = []
      · subst last
        cases arrives
        exact Or.inl ⟨by simp, found⟩
      · exact (ih unclosed).cons _ last
  | link _ found _ => exact Or.inl ⟨by simp, found⟩
  | @through fewer here name target rest closed place plain found onward given arrives ih =>
      have more : rest ≠ [] := by
        intro empty
        simp [empty, noFollow, unclosed] at onward
      have named := ih (by simp [unclosed, more])
      obtain ⟨next, others, rfl⟩ := List.exists_cons_of_ne_nil more
      cases place <;> simpa [NamedBy, List.getLast?_append, List.getLast?_cons] using named
  | leaf _ found _ => exact Or.inl ⟨by simp, found⟩

theorem Arrives.last_step {disk : Disk} {followLast : Bool} {links : Nat} {here : Location}
    {names : List Bytes} {closed : Bool} {folder : Location} {name : Bytes} {entry : Entry}
    (noFollow : followLast = false) (proper : entry ≠ .folder)
    (arrives : Arrives disk followLast links here names closed (.occupied (folder ++ [name]) entry)) :
    ∃ left, ∀ mode, disk.walk mode links here names closed = disk.walk mode left folder [name] false := by
  generalize same : Place.occupied (folder ++ [name]) entry = place at arrives
  induction arrives with
  | home =>
      injection same with _ kind
      exact (proper kind).elim
  | stay _ ih => simpa only [walk_dot] using ih same
  | rise _ ih => simpa only [walk_dots] using ih same
  | vacant _ _ => cases same
  | folder plain found _ ih =>
      obtain ⟨left, course⟩ := ih same
      exact ⟨left, fun mode => by rw [walk_folder _ _ plain _ _ found, course]⟩
  | @link links here last target plain found _ =>
      injection same with spot _
      obtain ⟨rfl, rfl⟩ := List.append_singleton_inj.mp spot
      exact ⟨links, fun _ => rfl⟩
  | through plain found onward given _ ih =>
      obtain ⟨left, course⟩ := ih same
      refine ⟨left, fun mode => ?_⟩
      rw [walk_link _ _ plain _ _ found,
        passes_of_stricter onward (fun follows => absurd (noFollow ▸ follows) (by simp)),
        passLink_succ _ _ _ _ _ _ given]
      exact course mode
  | @leaf links here last there plain found _ =>
      injection same with spot _
      obtain ⟨rfl, rfl⟩ := List.append_singleton_inj.mp spot
      exact ⟨links, fun _ => rfl⟩

/-- Where names lead to something that is no folder, no walk goes on from there. -/
theorem Arrives.no_way_on {disk : Disk} {followLast : Bool} {links : Nat} {here location : Location}
    {names : List Bytes} {closed : Bool} {entry : Entry} (follows : followLast = true)
    (proper : entry ≠ .folder)
    (arrives : Arrives disk followLast links here names closed (.occupied location entry))
    (mode : Bool) (left : Nat) {more : List Bytes} {asked : Bool} (onward : more ≠ [] ∨ asked = true)
    (place : Place) : disk.walk mode left here (names ++ more) asked ≠ .ok place := by
  generalize same : Place.occupied location entry = goal at arrives
  induction arrives generalizing left more asked with
  | home =>
      injection same with _ kind
      exact (proper kind).elim
  | stay _ ih => simpa only [List.cons_append, walk_dot] using ih left onward same
  | rise _ ih => simpa only [List.cons_append, walk_dots] using ih left onward same
  | vacant _ _ => cases same
  | folder plain found _ ih =>
      rw [List.cons_append, walk_folder _ _ plain _ _ found]
      exact ih left onward same
  | link _ _ noFollow => simp [follows] at noFollow
  | @through fewer here name target rest closed goal plain found _ given _ ih =>
      have passed : (rest ++ more = [] && !mode && !asked) = false := by
        rcases onward with further | asks
        · simp [further]
        · simp [asks]
      rw [List.cons_append, walk_link _ _ plain _ _ found, passed]
      intro arrived
      obtain ⟨less, rfl, _⟩ := passLink_ok arrived
      rw [if_neg (by simp), passLink_succ _ _ _ _ _ _ given, ← List.append_assoc] at arrived
      refine ih less ?_ same arrived
      rcases onward with further | asks
      · exact Or.inl further
      · exact Or.inr (by simp [asks])
  | leaf plain found leaf =>
      rw [List.cons_append, List.nil_append, walk_leaf _ _ plain _ _ found leaf]
      rcases onward with further | asks
      · simp [further]
      · simp [asks]

end Disk

end PipDriver
