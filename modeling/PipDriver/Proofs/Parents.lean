import PipDriver.Proofs.Fields
import PipDriver.Proofs.LinkFreePaths

/-!
The names on paths that are made from others: on the parent of a path all of them but the last, on two paths
joined those of both.
-/

namespace PipDriver

open Bytes (slash dot)

open Disk

namespace Path

theorem usable_iff {path : Path} : pathFault? path = none ↔
    0 ∉ path.bytes ∧ path.bytes ≠ [] ∧ ¬longestPath < path.bytes.length := by
  unfold pathFault? isEmpty
  constructor
  · intro usable
    split at usable
    · cases usable
    · split at usable
      · cases usable
      · split at usable
        · cases usable
        · simp_all
  · rintro ⟨unmarked, given, short⟩
    rw [if_neg unmarked, if_neg (by simpa using given), if_neg short]

theorem usable_of_prefix {path whole : Path} (starts : path.bytes <+: whole.bytes)
    (usable : pathFault? whole = none) (given : ¬path.isEmpty = true) : pathFault? path = none := by
  obtain ⟨rest, same⟩ := starts
  obtain ⟨unmarked, -, short⟩ := usable_iff.mp usable
  rw [← same, List.mem_append, not_or] at unmarked
  rw [← same, List.length_append] at short
  exact usable_iff.mpr ⟨unmarked.1, by simpa [isEmpty] using given, by omega⟩

theorem core_filter (fields : List Bytes) :
    core (fields.filter fun field => field ≠ []) = fields.filter fun field => !isIdle field := by
  simp only [core, List.filter_filter]
  congr 1
  funext field
  by_cases empty : field = [] <;> by_cases alone : field = [dot] <;> simp [isIdle, empty, alone]

def naming (fields : List Bytes) : List Bytes := fields.filter fun field => !isIdle field

theorem core_route (path : Path) : core path.route.names = naming (Text.fields slash path.bytes) :=
  core_filter _

inductive Leads : Bytes → Bytes → Prop
  | root (rest : Bytes) : Leads (slash :: rest) [slash]
  | dot : Leads [dot] [dot]
  | dotSlash (rest : Bytes) : Leads (dot :: slash :: rest) [dot]
  | none {bytes : Bytes} (relative : bytes.head? ≠ some slash) : Leads bytes []

theorem leads (bytes : Bytes) : Leads bytes (lead bytes) := by
  unfold lead
  split
  · exact .root _
  · exact .dot
  · exact .dotSlash _
  · rename_i relative _ _
    refine .none ?_
    cases bytes with
    | nil => simp
    | cons first rest =>
        rintro ⟨⟩
        exact relative rest rfl

theorem lead_prefix (bytes : Bytes) : lead bytes ++ bytes.drop (lead bytes).length = bytes := by
  have begins := leads bytes
  generalize lead bytes = start at begins ⊢
  cases begins <;> rfl

theorem bytes_eq (path : Path) : lead path.bytes ++ [slash].intercalate path.segments = path.bytes := by
  rw [segments, Text.intercalate_fields, lead_prefix]

theorem naming_segments (path : Path) : naming path.segments = naming (Text.fields slash path.bytes) := by
  have begins := leads path.bytes
  unfold segments
  generalize lead path.bytes = start at begins ⊢
  generalize path.bytes = bytes at begins ⊢
  cases begins <;> simp [Text.fields, naming, isIdle]

theorem absolute_iff_lead (path : Path) : path.route.absolute = true ↔ lead path.bytes = [slash] := by
  have begins := leads path.bytes
  simp only [route, Route.ofBytes]
  generalize lead path.bytes = start at begins ⊢
  generalize path.bytes = bytes at begins ⊢
  cases begins with
  | root rest => simp [Bytes.startsWith]
  | dot => simp [Bytes.startsWith]
  | dotSlash rest => simp [Bytes.startsWith]
  | none relative =>
      cases bytes with
      | nil => simp [Bytes.startsWith]
      | cons first rest =>
          have other : slash ≠ first := by
            rintro rfl
            exact relative rfl
          simp [Bytes.startsWith, other]

section Idle

variable (fields : List Bytes)

theorem dropIdleEnd_starts : dropIdleEnd fields <+: fields := by
  unfold dropIdleEnd
  rw [← List.reverse_suffix, List.reverse_reverse]
  exact List.dropWhile_suffix _

theorem naming_dropIdleEnd : naming (dropIdleEnd fields) = naming fields := by
  unfold dropIdleEnd naming
  rw [← List.reverse_reverse fields]
  generalize fields.reverse = turned
  rw [List.reverse_reverse, List.filter_reverse, List.filter_reverse]
  congr 1
  induction turned with
  | nil => rfl
  | cons first rest ih =>
      by_cases idle : isIdle first = true
      · simp [idle, ih]
      · simp [idle]

theorem last_dropIdleEnd {last : Bytes} (there : (dropIdleEnd fields).getLast? = some last) :
    isIdle last = false := by
  unfold dropIdleEnd at there
  rw [List.getLast?_reverse] at there
  have stopped := List.head?_dropWhile_not isIdle fields.reverse
  rw [there] at stopped
  simpa using stopped

end Idle

theorem naming_of_last {fields : List Bytes} {last : Bytes} (there : fields.getLast? = some last)
    (notIdle : isIdle last = false) : naming fields = naming fields.dropLast ++ [last] := by
  obtain ⟨front, rfl⟩ := List.getLast?_eq_some_iff.mp there
  simp [naming, notIdle]

theorem intercalate_ends (separator : UInt8) (front : List Bytes) (last : Bytes) :
    ∃ before, [separator].intercalate (front ++ [last]) = before ++ last := by
  induction front with
  | nil => exact ⟨[], by simp [List.intercalate]⟩
  | cons first others ih =>
      obtain ⟨before, same⟩ := ih
      obtain ⟨second, more, split⟩ := List.exists_cons_of_ne_nil (l := others ++ [last]) (by simp)
      rw [split] at same
      refine ⟨first ++ [separator] ++ before, ?_⟩
      rw [List.cons_append, split, List.intercalate_cons_cons, same, List.append_assoc _ before]

structure Beginning (path : Path) (kept : List Bytes) : Prop where
  starts : kept <+: path.segments
  ends : ∀ last, kept.getLast? = some last → isIdle last = false

def upTo (path : Path) (kept : List Bytes) : Path := ⟨lead path.bytes ++ [slash].intercalate kept⟩

section Beginnings

variable {path : Path} {kept : List Bytes}

theorem Beginning.whole (beginning : Beginning path kept) : ∀ segment ∈ kept, slash ∉ segment :=
  fun _ member => Text.notMem_fields (beginning.starts.subset member)

theorem upTo_starts (beginning : Beginning path kept) : (path.upTo kept).bytes <+: path.bytes := by
  have starts := Text.intercalate_prefix slash beginning.starts
  have whole := bytes_eq path
  rw [← whole]
  exact (List.prefix_append_right_inj _).mpr starts

theorem upTo_absolute (beginning : Beginning path kept) :
    (path.upTo kept).route.absolute = path.route.absolute := by
  have starts := upTo_starts beginning
  rw [Bool.eq_iff_iff]
  constructor
  · intro absolute
    simp only [route, Route.ofBytes, Bytes.startsWith, List.isPrefixOf_iff_prefix] at absolute ⊢
    exact absolute.trans starts
  · intro absolute
    rw [absolute_iff_lead] at absolute
    simp [route, Route.ofBytes, Bytes.startsWith, upTo, absolute]

theorem upTo_trimmed (beginning : Beginning path kept) : openEnd (path.upTo kept) = path.upTo kept := by
  rcases List.eq_nil_or_concat kept with rfl | ⟨front, last, rfl⟩
  · have begins := leads path.bytes
    unfold upTo
    generalize lead path.bytes = start at begins ⊢
    generalize path.bytes = bytes at begins
    cases begins <;> rfl
  · rw [List.concat_eq_append] at beginning ⊢
    refine openEnd_eq_self ?_
    have notIdle := beginning.ends last (by simp)
    have whole := beginning.whole last (by simp)
    obtain ⟨before, same⟩ := intercalate_ends slash front last
    rw [← Bool.not_eq_true, route_closed_iff, upTo, same, ← List.append_assoc, List.getLast?_append]
    cases final : last.getLast? with
    | none =>
        rw [List.getLast?_eq_none_iff] at final
        simp [final, isIdle] at notIdle
    | some byte =>
        rintro closed
        obtain rfl : byte = slash := by simpa using closed
        exact whole (List.mem_of_getLast? final)

/-- Behind what names nothing the fields of both paths begin alike. -/
theorem upTo_parted (beginning : Beginning path kept) (given : kept ≠ []) : ∃ front skipped shown,
    naming front = [] ∧ naming skipped = [] ∧ kept = skipped ++ shown ∧ shown ≠ [] ∧
      Text.fields slash (path.upTo kept).bytes = front ++ shown ∧ front ++ shown <+: Text.fields slash path.bytes := by
  have whole := beginning.whole
  have begins := leads path.bytes
  obtain ⟨starts, ends⟩ := beginning
  unfold segments at starts
  unfold upTo
  generalize lead path.bytes = start at begins starts ⊢
  generalize path.bytes = bytes at begins starts ⊢
  have parted := Text.fields_intercalate given whole
  obtain ⟨first, others, split⟩ := List.exists_cons_of_ne_nil given
  cases begins with
  | root rest =>
      refine ⟨[[]], [], kept, rfl, rfl, rfl, given, ?_, (List.prefix_cons_inj []).mpr starts⟩
      simp [Text.fields, parted]
  | none relative => exact ⟨[], [], kept, rfl, rfl, rfl, given, parted, starts⟩
  | dot =>
      -- A lone dot has no segment that names anything.
      subst split
      obtain ⟨rfl, more⟩ := List.cons_prefix_cons.mp (show first :: others <+: [[]] from starts)
      obtain rfl := List.prefix_nil.mp more
      exact absurd (ends [] rfl) (by decide)
  | dotSlash rest =>
      subst split
      obtain ⟨rfl, more⟩ := List.cons_prefix_cons.mp (show first :: others <+: [] :: Text.fields slash rest from starts)
      cases others with
      | nil => exact absurd (ends [] rfl) (by decide)
      | cons second after =>
          have parted := Text.fields_intercalate (List.cons_ne_nil second after)
            fun part member => whole part (List.mem_cons_of_mem _ member)
          refine ⟨[[dot]], [[]], second :: after, rfl, rfl, rfl, List.cons_ne_nil _ _, ?_, ?_⟩
          · simp [List.intercalate_cons_cons, Text.fields, parted]
          · simpa [Text.fields] using more

theorem upTo_fields (beginning : Beginning path kept) :
    naming (Text.fields slash (path.upTo kept).bytes) = naming kept ∧
      (kept ≠ [] → (Text.fields slash (path.upTo kept).bytes).getLast? = kept.getLast?) := by
  by_cases empty : kept = []
  · subst empty
    have begins := leads path.bytes
    unfold upTo
    generalize lead path.bytes = start at begins ⊢
    generalize path.bytes = bytes at begins
    cases begins <;> exact ⟨rfl, fun impossible => (impossible rfl).elim⟩
  · obtain ⟨front, skipped, shown, idle, idleToo, rfl, given, fields, -⟩ := upTo_parted beginning empty
    rw [fields]
    constructor
    · have parted (first second : List Bytes) : naming (first ++ second) = naming first ++ naming second :=
        List.filter_append _ _
      rw [parted, parted, idle, idleToo]
    · intro _
      rw [List.getLast?_append, List.getLast?_append, List.getLast?_eq_some_getLast given, Option.some_or,
        Option.some_or]

theorem upTo_names_starts (beginning : Beginning path kept) :
    (path.upTo kept).route.names <+: path.route.names := by
  by_cases empty : kept = []
  · subst empty
    have begins := leads path.bytes
    unfold upTo route Route.ofBytes
    generalize lead path.bytes = start at begins ⊢
    generalize path.bytes = bytes at begins
    cases begins with
    | root _ | none _ => exact List.nil_prefix
    | dot => exact List.prefix_refl _
    | dotSlash rest => simp [List.intercalate, Text.fields]
  · obtain ⟨front, skipped, shown, -, -, rfl, -, fields, starts⟩ := upTo_parted beginning empty
    rw [route, Route.ofBytes, fields]
    exact starts.filter _

theorem upTo_core (beginning : Beginning path kept) : core (path.upTo kept).route.names = naming kept := by
  rw [core_route, (upTo_fields beginning).1]

theorem upTo_last (beginning : Beginning path kept) {last : Bytes} (there : kept.getLast? = some last) :
    (path.upTo kept).route.names.getLast? = some last := by
  have named : kept ≠ [] := by
    rintro rfl
    cases there
  have notIdle := beginning.ends last there
  have given : last ≠ [] := by
    rintro rfl
    cases notIdle
  obtain ⟨front, split⟩ := List.getLast?_eq_some_iff.mp (((upTo_fields beginning).2 named).trans there)
  simp [route, Route.ofBytes, split, given]

end Beginnings

structure IsParent (path parent : Path) : Prop where
  starts : parent.bytes <+: path.bytes
  absolute : parent.route.absolute = path.route.absolute
  names : core parent.route.names = (core path.route.names).dropLast
  trimmed : openEnd parent = parent
  ends : core parent.route.names = [] ∨ parent.route.names.getLast? ≠ some [dot]

/-- A path that is its own parent has no names. -/
theorem IsParent.core_eq_nil {path parent : Path} (is : IsParent path parent)
    (long : path.bytes.length ≤ parent.bytes.length) : core path.route.names = [] := by
  have same : parent.bytes = path.bytes := is.starts.eq_of_length_le long
  have names : core path.route.names = (core path.route.names).dropLast := by
    rw [← is.names, route, route, same]
  have length := congrArg List.length names
  rw [List.length_dropLast] at length
  exact List.eq_nil_of_length_eq_zero (by omega)

theorem isParent_of_parent? {path parent : Path} (above : path.parent? = some parent) : IsParent path parent := by
  have same : core path.route.names = naming (dropIdleEnd path.segments) := by
    rw [core_route, naming_dropIdleEnd, naming_segments]
  unfold parent? at above
  generalize shortened : dropIdleEnd path.segments = named at above same
  have starts : named <+: path.segments := shortened ▸ dropIdleEnd_starts _
  cases named with
  | nil =>
      simp only at above
      split at above
      · rename_i dot
        simp only [Option.some.injEq] at above
        subst above
        have relative : path.route.absolute = false := by
          rw [← Bool.not_eq_true, absolute_iff_lead, dot]
          decide
        exact ⟨List.nil_prefix, by rw [relative]; rfl, by rw [same]; rfl, rfl, Or.inl rfl⟩
      · cases above
  | cons first others =>
      simp only [Option.some.injEq] at above
      subst above
      obtain ⟨last, final⟩ : ∃ last, (first :: others).getLast? = some last :=
        ⟨_, List.getLast?_eq_some_getLast (List.cons_ne_nil first others)⟩
      have notIdle := last_dropIdleEnd path.segments (by rw [shortened]; exact final)
      have beginning : Beginning path (dropIdleEnd (first :: others).dropLast) :=
        ⟨(dropIdleEnd_starts _).trans ((List.dropLast_prefix _).trans starts), fun _ => last_dropIdleEnd _⟩
      refine ⟨upTo_starts beginning, upTo_absolute beginning, ?_, upTo_trimmed beginning, ?_⟩
      · refine (upTo_core beginning).trans ?_
        rw [naming_dropIdleEnd, same, naming_of_last final notIdle, List.dropLast_concat]
      · cases last : (dropIdleEnd (first :: others).dropLast).getLast? with
        | none =>
            refine Or.inl ((upTo_core beginning).trans ?_)
            rw [List.getLast?_eq_none_iff.mp last]
            rfl
        | some segment =>
            refine Or.inr fun dot => ?_
            have same := (upTo_last beginning last).symm.trans dot
            rw [Option.some.injEq] at same
            subst same
            exact absurd (beginning.ends _ last) (by decide)

theorem core_of_no_parent {path : Path} (above : path.parent? = none) : core path.route.names = [] := by
  have same : core path.route.names = naming (dropIdleEnd path.segments) := by
    rw [core_route, naming_dropIdleEnd, naming_segments]
  unfold parent? at above
  split at above
  · rename_i named
    rw [same, named]
    rfl
  · cases above

theorem startsWith_append_left {bytes : Bytes} (given : bytes ≠ []) (rest : Bytes) :
    Bytes.startsWith (bytes ++ rest) [slash] = Bytes.startsWith bytes [slash] := by
  obtain ⟨first, others, rfl⟩ := List.exists_cons_of_ne_nil given
  simp [Bytes.startsWith, List.isPrefixOf]

theorem route_join_relative (folder : Path) {rest : Path} (relative : rest.isAbsolute = false) :
    (folder.join rest).route.names = folder.route.names ++ rest.route.names ∧
      (folder.join rest).route.absolute = folder.route.absolute := by
  by_cases empty : folder.isEmpty = true
  · have none : folder.bytes = [] := by simpa [isEmpty] using empty
    have joined : folder.join rest = rest := by simp [join, empty]
    have absolute : rest.route.absolute = false := relative
    rw [joined, absolute]
    simp [route, Route.ofBytes, none, Text.fields, Bytes.startsWith]
  · have given : folder.bytes ≠ [] := by simpa [isEmpty] using empty
    by_cases slashed : Bytes.endsWith folder.bytes [slash] = true
    · have joined : (folder.join rest).bytes = folder.bytes ++ rest.bytes := by
        simp [join, relative, empty, slashed]
      obtain ⟨before, same⟩ := List.getLast?_eq_some_iff.mp (Bytes.endsWith_singleton_iff.mp slashed)
      constructor
      · simp [route, Route.ofBytes, joined, same, Text.fields_append, Text.fields]
      · exact (congrArg (Bytes.startsWith · [slash]) joined).trans (startsWith_append_left given _)
    · have joined : (folder.join rest).bytes = folder.bytes ++ slash :: rest.bytes := by
        simp [join, relative, empty, slashed]
      constructor
      · simp [route, Route.ofBytes, joined, Text.fields_append]
      · exact (congrArg (Bytes.startsWith · [slash]) joined).trans (startsWith_append_left given _)

theorem route_join_closed (folder : Path) {rest : Path} (given : rest.bytes ≠ []) :
    (folder.join rest).route.closed = rest.route.closed := by
  obtain ⟨before, joined⟩ : ∃ before, (folder.join rest).bytes = before ++ rest.bytes := by
    unfold join
    split
    · exact ⟨[], rfl⟩
    · split
      · exact ⟨folder.bytes, rfl⟩
      · exact ⟨folder.bytes ++ [slash], by simp⟩
  obtain ⟨front, last, split⟩ := (List.eq_nil_or_concat rest.bytes).resolve_left given
  rw [Bool.eq_iff_iff, route_closed_iff, route_closed_iff, joined, split, List.concat_eq_append,
    ← List.append_assoc, List.getLast?_concat, List.getLast?_concat]

end Path

namespace World

theorem absolute_route (world : World) (path : Path) : (world.absolute path).route.absolute = true := by
  unfold absolute
  split
  · rename_i is
    exact is
  · unfold Host.workingPath Host.pathBytes
    split
    · rfl
    · rename_i below
      obtain ⟨first, others, same⟩ := List.exists_cons_of_ne_nil below
      simp [same, Path.route, Route.ofBytes, Bytes.startsWith]

theorem absolute_names (world : World) (path : Path) : (world.absolute path).route.names =
    (if path.isAbsolute then [] else world.host.workingPath.route.names) ++ path.route.names := by
  unfold absolute
  split
  · rfl
  · simp [Path.route, Route.ofBytes, Text.fields_append]

end World

end PipDriver
