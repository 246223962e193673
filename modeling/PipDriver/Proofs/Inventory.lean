import Mathlib.Data.List.Induction
import Mathlib.Data.List.Sort
import PipDriver.Pip.Basic
import PipDriver.Proofs.Steps

/-!
Installed packages by name. Each name has what the last record of it says, and the beginning that is asked for only
selects among the names.
-/

namespace PipDriver

def Record.IsLast (records : List Record) (record : Record) : Prop :=
  ∃ earlier later, records = earlier ++ record :: later ∧ ∀ other ∈ later, other.name ≠ record.name

theorem Record.isLast_append_singleton {records : List Record} {added record : Record} :
    IsLast (records ++ [added]) record ↔ record = added ∨ IsLast records record ∧ record.name ≠ added.name := by
  constructor
  · rintro ⟨earlier, later, split, unmatched⟩
    rcases List.eq_nil_or_concat later with rfl | ⟨more, last, rfl⟩
    · obtain ⟨-, same⟩ := List.append_inj' split rfl
      exact Or.inl (List.singleton_inj.mp same).symm
    · rw [List.concat_eq_append, ← List.cons_append, ← List.append_assoc] at split
      obtain ⟨rfl, same⟩ := List.append_inj' split rfl
      obtain rfl := List.singleton_inj.mp same
      refine Or.inr ⟨⟨earlier, more, rfl, fun other member => unmatched other (by simp [member])⟩, ?_⟩
      exact Ne.symm (unmatched added (by simp))
  · rintro (rfl | ⟨⟨earlier, later, rfl, unmatched⟩, different⟩)
    · exact ⟨records, [], rfl, by simp⟩
    · refine ⟨earlier, later ++ [added], by simp, ?_⟩
      intro other member
      rcases List.mem_append.mp member with inside | last
      · exact unmatched other inside
      · rw [List.mem_singleton.mp last]
        exact Ne.symm different

theorem Record.isLast_filter {kept : Text → Bool} {records : List Record} {record : Record} :
    IsLast (records.filter fun record => kept record.name) record ↔
      IsLast records record ∧ kept record.name = true := by
  induction records using List.reverseRecOn with
  | nil => simp [IsLast]
  | append_singleton earlier added ih =>
      rw [List.filter_append, List.filter_singleton, isLast_append_singleton]
      by_cases fits : kept added.name = true
      · rw [fits, cond_true, isLast_append_singleton, ih]
        constructor
        · rintro (rfl | ⟨⟨last, also⟩, different⟩)
          · exact ⟨Or.inl rfl, fits⟩
          · exact ⟨Or.inr ⟨last, different⟩, also⟩
        · rintro ⟨rfl | ⟨last, different⟩, also⟩
          · exact Or.inl rfl
          · exact Or.inr ⟨⟨last, also⟩, different⟩
      · rw [eq_false_of_ne_true fits, cond_false, List.append_nil, ih]
        constructor
        · rintro ⟨last, also⟩
          exact ⟨Or.inr ⟨last, fun same => fits (same ▸ also)⟩, also⟩
        · rintro ⟨rfl | ⟨last, -⟩, also⟩
          · exact (fits also).elim
          · exact ⟨last, also⟩

theorem Record.IsLast.mem {records : List Record} {record : Record} (last : IsLast records record) :
    record ∈ records := by
  obtain ⟨earlier, later, rfl, -⟩ := last
  exact List.mem_append_right _ List.mem_cons_self

theorem Record.exists_isLast {records : List Record} {record : Record} (member : record ∈ records) :
    ∃ last, IsLast records last ∧ last.name = record.name := by
  induction records using List.reverseRecOn with
  | nil => cases member
  | append_singleton earlier added ih =>
      simp only [isLast_append_singleton]
      by_cases same : added.name = record.name
      · exact ⟨added, Or.inl rfl, same⟩
      · rcases List.mem_append.mp member with inside | last
        · obtain ⟨last, latest, named⟩ := ih inside
          exact ⟨last, Or.inr ⟨latest, fun clash => same (clash ▸ named)⟩, named⟩
        · rw [List.mem_singleton.mp last] at same
          exact (same rfl).elim

namespace Versions

/-- The names that begin as asked for, both in lower case, with their versions. -/
def selected (start : Text) (versions : Versions) : Versions :=
  versions.filter fun entry => entry.1.lower.startsWith start.lower

def Precedes (first second : Text × Text) : Prop := first.1 < second.1

instance precedesIrrefl : Std.Irrefl Precedes := ⟨fun entry => List.lt_irrefl entry.1⟩

instance precedesAntisymm : Std.Antisymm Precedes :=
  ⟨fun _ _ before after => (List.lt_asymm before after).elim⟩

theorem Precedes.ne {one two : Text × Text} (before : Precedes one two) : one.1 ≠ two.1 := by
  intro same
  rw [Precedes, same] at before
  exact List.lt_irrefl _ before

def Ordered (versions : Versions) : Prop := versions.Pairwise Precedes

variable {versions first second : Versions} {entry : Text × Text} {name version : Text} {records : List Record}

theorem Ordered.unique (ordered : Ordered versions) {other : Text} (one : (name, version) ∈ versions)
    (two : (name, other) ∈ versions) : version = other := by
  have distinct : (versions.map Prod.fst).Nodup :=
    List.pairwise_map.mpr (ordered.imp Precedes.ne)
  exact (Prod.mk.inj (List.inj_on_of_nodup_map distinct one two rfl)).2

theorem Ordered.ext (one : Ordered first) (two : Ordered second) (same : ∀ entry, entry ∈ first ↔ entry ∈ second) :
    first = second :=
  List.Pairwise.eq_of_mem_iff one two same

theorem mem_put_iff (ordered : Ordered versions) :
    entry ∈ versions.put name version ↔ entry = (name, version) ∨ entry ∈ versions ∧ entry.1 ≠ name := by
  induction versions with
  | nil => simp [put]
  | cons head rest ih =>
      obtain ⟨listed, kept⟩ := head
      obtain ⟨leads, tail⟩ := List.pairwise_cons.mp ordered
      have later : ∀ other ∈ rest, listed < other.1 := leads
      rw [put]
      split
      · rename_i same
        subst same
        have apart : entry ∈ rest → entry.1 ≠ name := fun member same => List.lt_irrefl _ (same ▸ later entry member)
        rw [List.mem_cons, List.mem_cons]
        constructor
        · rintro (added | member)
          · exact Or.inl added
          · exact Or.inr ⟨Or.inr member, apart member⟩
        · rintro (added | ⟨rfl | member, different⟩)
          · exact Or.inl added
          · exact (different rfl).elim
          · exact Or.inr member
      · rename_i different
        split
        · rename_i before
          have apart : entry ∈ (listed, kept) :: rest → entry.1 ≠ name := by
            rintro member rfl
            rcases List.mem_cons.mp member with rfl | inside
            · exact List.lt_irrefl _ before
            · exact List.lt_asymm before (later entry inside)
          rw [List.mem_cons]
          exact or_congr_right ⟨fun member => ⟨member, apart member⟩, And.left⟩
        · rw [List.mem_cons, ih tail, List.mem_cons]
          constructor
          · rintro (rfl | added | ⟨member, other⟩)
            · exact Or.inr ⟨Or.inl rfl, Ne.symm different⟩
            · exact Or.inl added
            · exact Or.inr ⟨Or.inr member, other⟩
          · rintro (added | ⟨rfl | member, other⟩)
            · exact Or.inr (Or.inl added)
            · exact Or.inl rfl
            · exact Or.inr (Or.inr ⟨member, other⟩)

theorem ordered_put (ordered : Ordered versions) : Ordered (versions.put name version) := by
  induction versions with
  | nil => exact List.pairwise_singleton _ _
  | cons head rest ih =>
      obtain ⟨listed, kept⟩ := head
      obtain ⟨leads, tail⟩ := List.pairwise_cons.mp ordered
      rw [put]
      split
      · rename_i same
        subst same
        exact List.pairwise_cons.mpr ⟨leads, tail⟩
      · rename_i different
        split
        · rename_i before
          refine List.pairwise_cons.mpr ⟨?_, ordered⟩
          intro other member
          rcases List.mem_cons.mp member with rfl | inside
          · exact before
          · exact List.lt_trans before (leads other inside)
        · rename_i behind
          refine List.pairwise_cons.mpr ⟨?_, ih tail⟩
          intro other member
          rcases (mem_put_iff tail).mp member with rfl | ⟨inside, -⟩
          · exact (List.le_iff_lt_or_eq.mp (List.not_lt.mp behind)).resolve_right (Ne.symm different)
          · exact leads other inside

theorem ofRecords_append_singleton (records : List Record) (added : Record) :
    ofRecords (records ++ [added]) = (ofRecords records).put added.name added.version := by
  rw [ofRecords, ofRecords, List.foldl_append, List.foldl_cons, List.foldl_nil]

theorem ordered_ofRecords (records : List Record) : Ordered (ofRecords records) := by
  induction records using List.reverseRecOn with
  | nil => exact List.Pairwise.nil
  | append_singleton earlier added ih =>
      rw [ofRecords_append_singleton]
      exact ordered_put ih

theorem mem_ofRecords_iff : (name, version) ∈ ofRecords records ↔
    ∃ record, Record.IsLast records record ∧ record.name = name ∧ record.version = version := by
  -- The map grows by one record at a time, and the last one put counts.
  induction records using List.reverseRecOn with
  | nil => simp [ofRecords, Record.IsLast]
  | append_singleton earlier added ih =>
      rw [ofRecords_append_singleton, mem_put_iff (ordered_ofRecords earlier), ih]
      simp only [Record.isLast_append_singleton, Prod.mk.injEq]
      constructor
      · rintro (⟨rfl, rfl⟩ | ⟨⟨record, last, rfl, rfl⟩, different⟩)
        · exact ⟨added, Or.inl rfl, rfl, rfl⟩
        · exact ⟨record, Or.inr ⟨last, different⟩, rfl, rfl⟩
      · rintro ⟨record, rfl | ⟨last, different⟩, rfl, rfl⟩
        · exact Or.inl ⟨rfl, rfl⟩
        · exact Or.inr ⟨⟨record, last, rfl, rfl⟩, different⟩

/-- Records left out by their names leave the map without these names and otherwise as it is. -/
theorem ofRecords_filter (kept : Text → Bool) (records : List Record) :
    ofRecords (records.filter fun record => kept record.name) =
      (ofRecords records).filter fun entry => kept entry.1 := by
  refine (ordered_ofRecords _).ext (List.Pairwise.filter _ (ordered_ofRecords records)) ?_
  rintro ⟨name, version⟩
  simp only [List.mem_filter, mem_ofRecords_iff, Record.isLast_filter]
  constructor
  · rintro ⟨record, ⟨last, fits⟩, rfl, rfl⟩
    exact ⟨⟨record, last, rfl, rfl⟩, fits⟩
  · rintro ⟨⟨record, last, rfl, rfl⟩, fits⟩
    exact ⟨record, ⟨last, fits⟩, rfl, rfl⟩

theorem fits_some (start name : Text) : fits (some start) name = name.lower.startsWith start.lower := by
  by_cases empty : start = []
  · subst empty
    rfl
  · simp [fits, empty]

theorem ofListing_none (listing : Text) : ofListing listing none = ofRecords (Record.ofListing listing) := by
  simp [ofListing, fits]

theorem ofListing_some (listing start : Text) :
    ofListing listing (some start) = (ofListing listing none).selected start := by
  rw [ofListing_none, selected]
  simp only [ofListing, fits_some]
  exact ofRecords_filter (fun name => name.lower.startsWith start.lower) _

theorem ofListing_empty (listing : Text) : ofListing listing (some []) = ofListing listing none := by
  rw [ofListing_some, selected, List.filter_eq_self]
  intro entry member
  rfl

theorem ordered_ofListing (listing : Text) (wanted : Option Text) : Ordered (ofListing listing wanted) :=
  ordered_ofRecords _

theorem mem_of_mem_ofListing {listing : Text} {wanted : Option Text} (member : entry ∈ ofListing listing wanted) :
    entry ∈ ofListing listing none := by
  cases wanted with
  | none => exact member
  | some start =>
      rw [ofListing_some] at member
      exact List.mem_of_mem_filter member

theorem exists_mem_ofRecords_iff :
    (∃ version, (name, version) ∈ ofRecords records) ↔ ∃ record ∈ records, record.name = name := by
  simp only [mem_ofRecords_iff]
  constructor
  · rintro ⟨_, record, last, same, -⟩
    exact ⟨record, last.mem, same⟩
  · rintro ⟨record, member, rfl⟩
    obtain ⟨last, latest, same⟩ := Record.exists_isLast member
    exact ⟨last.version, last, latest, same, rfl⟩

end Versions

theorem Pip.list_some (services : Services) (start : Text) (context : Context) (world : World) :
    Pip.list services (some start) context world =
      ((Pip.list services none context world).1.map (Versions.selected start),
        (Pip.list services none context world).2) := by
  have listed (wanted : Option Text) : Pip.list services wanted context world = _ := Step.bind_pure_apply _ _ world
  rw [listed, listed]
  cases (Pip.listing services context world).1 with
  | error failure => rfl
  | ok listing => simp only [Except.map, Versions.ofListing_some]

/-- The map has the names of all records in their order, each with what its last record says. What begins as asked
for, both in lower case, is selected from it; the value of a name stays the same, and nothing asked for is no
restriction. -/
theorem versions_tell_last_records (listing : Text) :
    let records := Record.ofListing listing
    let all := Versions.ofListing listing none
    Versions.Ordered all ∧
    (∀ name, (∃ version, (name, version) ∈ all) ↔ ∃ record ∈ records, record.name = name) ∧
    (∀ name version, (name, version) ∈ all ↔
      ∃ record, Record.IsLast records record ∧ record.name = name ∧ record.version = version) ∧
    (∀ start, Versions.ofListing listing (some start) = all.selected start) ∧
    Versions.ofListing listing (some []) = all ∧
    (∀ first second name version other, (name, version) ∈ Versions.ofListing listing first →
      (name, other) ∈ Versions.ofListing listing second → version = other) ∧
    ∀ services start context world, Pip.list services (some start) context world =
      ((Pip.list services none context world).1.map (Versions.selected start),
        (Pip.list services none context world).2) := by
  intro records all
  have ordered : Versions.Ordered all := Versions.ordered_ofListing listing none
  have whole : all = Versions.ofRecords records := Versions.ofListing_none listing
  refine ⟨ordered, ?_, ?_, Versions.ofListing_some listing, Versions.ofListing_empty listing, ?_, ?_⟩
  · intro name
    rw [whole]
    exact Versions.exists_mem_ofRecords_iff
  · intro name version
    rw [whole]
    exact Versions.mem_ofRecords_iff
  · intro first second name version other one two
    exact ordered.unique (Versions.mem_of_mem_ofListing one) (Versions.mem_of_mem_ofListing two)
  · exact Pip.list_some

theorem versions_tell_last_records_crowded :
    let listing : Text := "Six==1\nsix==2\n-e git+https://x#egg=Six\nsix==3\nseven==4"
    let origin : Text := "git+https://x"
    Versions.ofListing listing (some "SI") = [(("Six" : Text), origin), (("six" : Text), ("3" : Text))] ∧
      (("six" : Text), ("3" : Text)) ∈ Versions.ofListing listing (some "s") ∧
      ∀ version, (("Six" : Text), version) ∈ Versions.ofListing listing (some "s") → origin = version := by
  intro listing origin
  obtain ⟨-, -, last, -, -, same, -⟩ := versions_tell_last_records listing
  have six : (("Six" : Text), origin) ∈ Versions.ofListing listing none :=
    (last "Six" origin).mpr ⟨.editable "Six" origin,
      ⟨[.pinned "Six" "1", .pinned "six" "2"], [.pinned "six" "3", .pinned "seven" "4"], by decide, by decide⟩,
      rfl, rfl⟩
  exact ⟨by decide +kernel, by decide +kernel, fun version member =>
    same none (some "s") "Six" origin version six member⟩

end PipDriver
