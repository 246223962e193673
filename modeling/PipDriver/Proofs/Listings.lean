import Mathlib.Data.List.DropRight
import PipDriver.Pip.Basic
import PipDriver.Proofs.Plans
import PipDriver.Proofs.TemporaryNames
import PipDriver.Proofs.Steps

/-!
Listings of installed packages read back. A listing is written line by line, a record on a line or nothing at all,
and the records on the lines are read again in their order; what is on a line has no effect on another.
-/

namespace PipDriver

namespace Text

structure Solid (text : Text) : Prop where
  starts : ∃ first, text.head? = some first ∧ isBlank first = false
  ends : ∃ last, text.getLast? = some last ∧ isBlank last = false

theorem trimStart_eq_self {text : Text} (starts : ∀ first, text.head? = some first → isBlank first = false) :
    trimStart text = text := by
  cases text with
  | nil => rfl
  | cons first rest => rw [trimStart, List.dropWhile_cons_of_neg (by simp [starts first rfl])]

theorem trimEnd_append {core : Text} (ends : ∃ last, core.getLast? = some last ∧ isBlank last = false)
    (tail : Text) : trimEnd (core ++ tail) = core ++ trimEnd tail := by
  obtain ⟨last, found, proper⟩ := ends
  have kept : core.reverse.dropWhile isBlank = core.reverse :=
    trimStart_eq_self fun first same => by
      rw [List.head?_reverse, found] at same
      cases same
      exact proper
  rw [trimEnd, trimEnd, List.reverse_append, List.dropWhile_append, kept]
  split
  · rename_i blank
    rw [List.isEmpty_iff] at blank
    simp [blank]
  · simp

theorem trim_of_starts {core : Text} (solid : core.Solid) (tail : Text) :
    trim (core ++ tail) = core ++ trimEnd tail := by
  obtain ⟨first, found, proper⟩ := solid.starts
  rw [trim, trimStart_eq_self, trimEnd_append solid.ends]
  intro other same
  rw [List.head?_append, found] at same
  cases same
  exact proper

theorem trim_eq_self {text : Text} (solid : text.Solid) : trim text = text := by
  have whole := trim_of_starts solid []
  rwa [List.append_nil, show trimEnd [] = [] from rfl, List.append_nil] at whole

theorem solid_of_trim {text : Text} (trimmed : trim text = text) (given : text ≠ []) : text.Solid := by
  have shorter : (trim text).length ≤ (trimStart text).length := by
    rw [trim, trimEnd, List.length_reverse]
    exact (List.dropWhile_suffix isBlank).length_le.trans_eq List.length_reverse
  have start : trimStart text = text := by
    rw [trimmed] at shorter
    exact (List.dropWhile_suffix isBlank).eq_of_length_le shorter
  have ending : trimEnd text = text := by rwa [trim, start] at trimmed
  constructor
  · refine ⟨text.head given, List.head?_eq_some_head given, ?_⟩
    have proper := List.head?_dropWhile_not isBlank text
    rw [show List.dropWhile isBlank text = text from start, List.head?_eq_some_head given] at proper
    exact proper
  · refine ⟨text.getLast given, List.getLast?_eq_some_getLast given, ?_⟩
    have proper := List.head?_dropWhile_not isBlank text.reverse
    rw [show List.dropWhile isBlank text.reverse = text.reverse from List.reverse_eq_iff.mp ending,
      List.head?_reverse, List.getLast?_eq_some_getLast given] at proper
    exact proper

theorem trimEnd_isPrefix (text : Text) : trimEnd text <+: text := by
  rw [← List.reverse_suffix, trimEnd, List.reverse_reverse]
  exact List.dropWhile_suffix isBlank

theorem trimEnd_trimEnd (text : Text) : trimEnd (trimEnd text) = trimEnd text := by
  rw [trimEnd, trimEnd, List.reverse_reverse, List.dropWhile_idempotent]

theorem trim_append_blank {tail : Text} (blank : ∀ character ∈ tail, isBlank character = true) (text : Text) :
    trim (text ++ tail) = trim text := by
  have gone : trimStart tail = [] := List.dropWhile_eq_nil_iff.mpr blank
  have cut (core : Text) : trimEnd (core ++ tail) = trimEnd core := by
    rw [trimEnd, List.reverse_append, List.dropWhile_append_of_pos]
    · rfl
    · intro character member
      exact blank character (List.mem_reverse.mp member)
  have start : trimStart (text ++ tail) =
      if (trimStart text).isEmpty then trimStart tail else trimStart text ++ tail := List.dropWhile_append
  rw [trim, trim, start]
  split
  · rename_i empty
    rw [gone, List.isEmpty_iff.mp empty]
  · exact cut _

theorem trim_append_return (line : Text) : trim (line ++ ['\r']) = trim line :=
  trim_append_blank (List.forall_mem_singleton.mpr rfl) line

theorem trim_dropReturn (line : Text) : trim (dropReturn line) = trim line := by
  unfold dropReturn
  split
  · rename_i before reversed
    have whole : line = before.reverse ++ ['\r'] := by
      rw [← List.reverse_reverse line, reversed, List.reverse_cons]
    rw [whole, trim_append_return]
  · rfl

/-- A start that has not this character in it is a start of what stands ahead of the character. -/
theorem isPrefix_of_notMem {start before after : Text} {character : Char} (other : character ∉ start)
    (begins : start <+: before ++ character :: after) : start <+: before := by
  induction start generalizing before with
  | nil => exact List.nil_prefix
  | cons first rest ih =>
      simp only [List.mem_cons, not_or] at other
      cases before with
      | nil => exact absurd (List.cons_prefix_cons.mp begins).1.symm other.1
      | cons letter others =>
          rw [List.cons_append, List.cons_prefix_cons] at begins
          exact List.cons_prefix_cons.mpr ⟨begins.1, ih other.2 begins.2⟩

theorem isPrefixOf?_eq_none {start text : Text} (different : ¬start <+: text) : start.isPrefixOf? text = none := by
  cases found : start.isPrefixOf? text with
  | none => rfl
  | some rest => exact (different ⟨rest, List.isPrefixOf?_eq_some_iff_append_eq.mp found⟩).elim

theorem isPrefixOf?_append (start rest : Text) : start.isPrefixOf? (start ++ rest) = some rest :=
  List.isPrefixOf?_eq_some_iff_append_eq.mpr rfl

theorem all_ne {character : Char} {front : Text} (without : character ∉ front) :
    ∀ other ∈ front, decide (other ≠ character) = true := by
  intro other member
  simp only [decide_eq_true_eq]
  rintro rfl
  exact without member

theorem takeWhile_ne {character : Char} {front tail : Text} (without : character ∉ front)
    (ended : tail = [] ∨ ∃ rest, tail = character :: rest) : (front ++ tail).takeWhile (· ≠ character) = front := by
  rw [List.takeWhile_append_of_pos (all_ne without)]
  rcases ended with rfl | ⟨rest, rfl⟩ <;> simp

theorem dropWhile_ne {character : Char} {front : Text} (without : character ∉ front) (tail : Text) :
    (front ++ tail).dropWhile (· ≠ character) = tail.dropWhile (· ≠ character) :=
  List.dropWhile_append_of_pos (all_ne without)

/-- Two equals signs are found behind a text that has them nowhere and does not end in one. -/
theorem splitOnce_equals {before after : Text} (without : ¬("==" : Text) <:+: before)
    (ending : before.getLast? ≠ some '=') :
    splitOnce "==" (before ++ '=' :: '=' :: after) = some (before, after) := by
  induction before with
  | nil => rfl
  | cons character rest ih =>
      have different : ¬("==" : Text) <+: (character :: rest) ++ '=' :: '=' :: after := by
        rintro ⟨others, same⟩
        change '=' :: '=' :: others = _ at same
        cases rest with
        | nil => exact ending (congrArg some (List.cons.inj same).1.symm)
        | cons next more =>
            cases same
            exact without ⟨[], more, rfl⟩
      have tail : rest.getLast? ≠ some '=' := by
        intro last
        rw [List.getLast?_cons, last] at ending
        exact ending rfl
      rw [List.cons_append] at different ⊢
      rw [splitOnce, isPrefixOf?_eq_none different,
        ih (fun inside => without (inside.trans (List.suffix_cons character rest).isInfix)) tail]
      rfl

end Text

namespace Egg

variable {wanted : Text → Bool}

theorem nameAt?_name {name tail : Text} (whole : '&' ∉ name) (ended : tail = [] ∨ ∃ rest, tail = '&' :: rest)
    (kept : wanted name = true) : nameAt? wanted ("egg=" ++ (name ++ tail)) = some name := by
  rw [nameAt?, Text.isPrefixOf?_append]
  simp only [Text.takeWhile_ne whole ended, kept, if_true]

theorem nameAt?_other {parameter rest : Text} (other : ¬("egg=" : Text) <+: parameter) :
    nameAt? wanted (parameter ++ '&' :: rest) = none := by
  have different : ¬("egg=" : Text) <+: parameter ++ '&' :: rest := fun begins =>
    other (Text.isPrefix_of_notMem (by decide) begins)
  rw [nameAt?, Text.isPrefixOf?_eq_none different]

theorem nameAfterAmpersand?_parameter {parameter rest : Text} (line : '\n' ∉ parameter) (whole : '&' ∉ parameter) :
    nameAfterAmpersand? wanted (parameter ++ '&' :: rest) =
      (nameAt? wanted rest).or (nameAfterAmpersand? wanted rest) := by
  induction parameter with
  | nil => rfl
  | cons character others ih =>
      simp only [List.mem_cons, not_or] at line whole
      rw [List.cons_append, nameAfterAmpersand?, if_neg (Ne.symm line.1), if_neg (Ne.symm whole.1),
        ih line.2 whole.2]

/-- Parameters of other names are passed over. -/
theorem name?_fragment (wanted : Text → Bool) {parameters : List Text} {name tail : Text}
    (others : ∀ parameter ∈ parameters, '\n' ∉ parameter ∧ '&' ∉ parameter ∧ ¬("egg=" : Text) <+: parameter)
    (whole : '&' ∉ name) (ended : tail = [] ∨ ∃ rest, tail = '&' :: rest) (kept : wanted name = true) :
    let fragment := parameters.flatMap (· ++ ['&']) ++ ("egg=" ++ (name ++ tail))
    (nameAt? wanted fragment).or (nameAfterAmpersand? wanted fragment) = some name := by
  intro fragment
  induction parameters with
  | nil => rw [show fragment = "egg=" ++ (name ++ tail) from rfl, nameAt?_name whole ended kept, Option.some_or]
  | cons parameter rest ih =>
      obtain ⟨line, plain, other⟩ := others parameter (by simp)
      have split : fragment = parameter ++ '&' :: (rest.flatMap (· ++ ['&']) ++ ("egg=" ++ (name ++ tail))) := by
        simp [fragment]
      rw [split, nameAt?_other other, Option.none_or, nameAfterAmpersand?_parameter line plain]
      exact ih fun later member => others later (List.mem_cons_of_mem _ member)

theorem name?_origin {origin fragment : Text} (plain : '#' ∉ origin) :
    name? wanted (origin ++ '#' :: fragment) =
      ((nameAt? wanted fragment).or (nameAfterAmpersand? wanted fragment)).or (name? wanted fragment) := by
  induction origin with
  | nil => rfl
  | cons character rest ih =>
      simp only [List.mem_cons, not_or] at plain
      rw [List.cons_append, name?, if_neg (Ne.symm plain.1), ih plain.2]

end Egg

namespace Record

structure PlainPin (name version : Text) : Prop where
  name_trimmed : name.trim = name
  name_given : name ≠ []
  name_line : '\n' ∉ name
  version_trimmed : version.trim = version
  version_given : version ≠ []
  version_line : '\n' ∉ version
  unsplit : ¬("==" : Text) <:+: name
  ending : name.getLast? ≠ some '='
  content : name.head? ≠ some '#'
  unflagged : ¬("-e " : Text) <+: name

structure PlainAddress (origin : Text) (before : List Text) (name : Text) (after : List Text) : Prop where
  origin_start : ∀ first ∈ origin.head?, Text.isBlank first = false
  origin_plain : '#' ∉ origin
  origin_line : '\n' ∉ origin
  name_given : name ≠ []
  name_plain : '&' ∉ name
  name_line : '\n' ∉ name
  name_end : ∀ last ∈ name.getLast?, Text.isBlank last = false
  before_others : ∀ parameter ∈ before, '\n' ∉ parameter ∧ '&' ∉ parameter ∧ ¬("egg=" : Text) <+: parameter
  after_line : ∀ parameter ∈ after, '\n' ∉ parameter

inductive Written : Record → Text → Prop
  | pinned {name version : Text} (plain : PlainPin name version) :
      Written (.pinned name version) (name ++ '=' :: '=' :: version)
  | editable {origin name : Text} {before after : List Text} (plain : PlainAddress origin before name after) :
      Written (.editable name origin) ("-e " ++ (origin ++ '#' ::
        (before.flatMap (· ++ ['&']) ++ ("egg=" ++ (name ++ after.flatMap ('&' :: ·))))))

inductive OnLine : List Record → Text → Prop
  | record {record : Record} {line : Text} (written : Written record line) : OnLine [record] line
  | blank {line : Text} (one : '\n' ∉ line) (blank : line.allBlank = true) : OnLine [] line
  | remark {line : Text} (one : '\n' ∉ line) (marked : line.trim.head? = some '#') : OnLine [] line
  | unrecognised {line : Text} (one : '\n' ∉ line) (unread : ofLine? line = none) : OnLine [] line

inductive Listed : List Record → Text → Prop
  | unended {records : List Record} {line : Text} (holds : OnLine records line) : Listed records line
  | line {first others : List Record} {line ending text : Text} (holds : OnLine first line)
      (ended : ending = ['\n'] ∨ ending = ['\r', '\n']) (rest : Listed others text) :
      Listed (first ++ others) (line ++ (ending ++ text))

def onLine? (line : Text) : Option Record := if isContent line then ofLine? line else none

theorem onLine?_eq_of_trim {line other : Text} (same : line.trim = other.trim) : onLine? line = onLine? other := by
  unfold onLine? isContent ofLine?
  rw [same]

theorem onLine?_eq_none {line : Text} (blank : line.allBlank = true) : onLine? line = none := by
  simp [onLine?, isContent, Text.trim_eq_nil_iff.mpr blank]

theorem filter_lines (lines : List Text) : (lines.filter isContent).filterMap ofLine? = lines.filterMap onLine? := by
  rw [List.filterMap_filter]
  rfl

theorem ofListing_eq (listing : Text) : ofListing listing = (Text.fields '\n' listing).filterMap onLine? := by
  have given := Text.fields_ne_nil '\n' listing
  have same : onLine? ∘ Text.dropReturn = onLine? :=
    funext fun line => onLine?_eq_of_trim (Text.trim_dropReturn line)
  have parts : (Text.fields '\n' listing).filterMap onLine? =
      (Text.fields '\n' listing).dropLast.filterMap onLine? ++
        [(Text.fields '\n' listing).getLast given].filterMap onLine? := by
    rw [← List.filterMap_append, List.dropLast_append_getLast given]
  rw [ofListing, filter_lines, Text.lines, parts]
  split
  · rename_i ended
    rw [ended, List.filterMap_map, same]
    exact (List.append_nil _).symm
  · rw [List.filterMap_append, List.filterMap_map, same]

theorem isContent_of_trim {line text : Text} {first : Char} (trimmed : line.trim = text)
    (starts : text.head? = some first) (other : first ≠ '#') : isContent line = true := by
  cases text with
  | nil => cases starts
  | cons character rest =>
      cases starts
      simp [isContent, trimmed, Text.startsWith, List.isPrefixOf, Ne.symm other]

theorem PlainPin.onLine? {name version : Text} (plain : PlainPin name version) :
    Record.onLine? (name ++ '=' :: '=' :: version) = some (.pinned name version) := by
  have named := Text.solid_of_trim plain.name_trimmed plain.name_given
  have versioned := Text.solid_of_trim plain.version_trimmed plain.version_given
  obtain ⟨first, starts, -⟩ := named.starts
  have start : (name ++ '=' :: '=' :: version).head? = some first := by rw [List.head?_append, starts, Option.some_or]
  have trimmed : (name ++ '=' :: '=' :: version).trim = name ++ '=' :: '=' :: version := by
    refine Text.trim_eq_self ⟨?_, ?_⟩
    · rw [start, ← starts]
      exact named.starts
    · obtain ⟨last, found, proper⟩ := versioned.ends
      exact ⟨last, by simp [List.getLast?_append, List.getLast?_cons, found], proper⟩
  have content := isContent_of_trim trimmed start fun same => plain.content (same ▸ starts)
  have unflagged : ¬("-e " : Text) <+: name ++ '=' :: '=' :: version := fun begins =>
    plain.unflagged (Text.isPrefix_of_notMem (by decide) begins)
  rw [Record.onLine?, content, if_pos rfl, ofLine?, trimmed, Text.isPrefixOf?_eq_none unflagged]
  simp only [ofPin?, Text.splitOnce_equals plain.unsplit plain.ending, plain.name_trimmed, plain.version_trimmed,
    plain.name_given, plain.version_given, decide_false, Bool.or_self, Bool.false_eq_true, if_false]

theorem PlainAddress.ofAddress? {origin name tail : Text} {before after : List Text}
    (plain : PlainAddress origin before name after) (ended : tail = [] ∨ ∃ rest, tail = '&' :: rest) :
    Record.ofAddress? (origin ++ '#' :: (before.flatMap (· ++ ['&']) ++ ("egg=" ++ (name ++ tail)))) =
      some (.editable name origin) := by
  have cut : (origin ++ '#' :: (before.flatMap (· ++ ['&']) ++ ("egg=" ++ (name ++ tail)))).takeWhile (· ≠ '#') =
      origin := Text.takeWhile_ne plain.origin_plain (Or.inr ⟨_, rfl⟩)
  have found := Egg.name?_fragment (fun name => name ≠ []) plain.before_others plain.name_plain ended
    (by simpa using plain.name_given)
  rw [Record.ofAddress?, Egg.name?_origin plain.origin_plain, found, Option.some_or, Option.map_some, cut]

theorem PlainAddress.onLine? {origin name : Text} {before after : List Text}
    (plain : PlainAddress origin before name after) :
    Record.onLine? ("-e " ++ (origin ++ '#' ::
      (before.flatMap (· ++ ['&']) ++ ("egg=" ++ (name ++ after.flatMap ('&' :: ·)))))) =
        some (.editable name origin) := by
  -- Blanks can only be dropped behind the name, so the address stays as it is up to there.
  let address := origin ++ '#' :: (before.flatMap (· ++ ['&']) ++ ("egg=" ++ name))
  let tail := after.flatMap ('&' :: ·)
  have join (rest : Text) : address ++ rest =
      origin ++ '#' :: (before.flatMap (· ++ ['&']) ++ ("egg=" ++ (name ++ rest))) := by
    simp [address]
  have ends : ∃ last, address.getLast? = some last ∧ Text.isBlank last = false := by
    refine ⟨name.getLast plain.name_given, ?_, plain.name_end _ (List.getLast?_eq_some_getLast _)⟩
    simp [address, List.getLast?_append, List.getLast?_cons, List.getLast?_eq_some_getLast plain.name_given]
  have solid : address.Solid := by
    refine ⟨?_, ends⟩
    cases start : origin.head? with
    | none => exact ⟨'#', by simp [address, List.head?_append, start], by decide⟩
    | some first => exact ⟨first, by simp [address, List.head?_append, start], plain.origin_start first start⟩
  have flagged : Text.Solid ("-e " ++ address) := by
    obtain ⟨last, found, proper⟩ := ends
    exact ⟨⟨'-', rfl, by decide⟩, last, by rw [List.getLast?_append, found, Option.some_or], proper⟩
  have ended : Text.trimEnd tail = [] ∨ ∃ rest, Text.trimEnd tail = '&' :: rest := by
    obtain ⟨blanks, split⟩ := Text.trimEnd_isPrefix tail
    cases kept : Text.trimEnd tail with
    | nil => exact Or.inl rfl
    | cons first rest =>
        rw [kept] at split
        change first :: (rest ++ blanks) = after.flatMap ('&' :: ·) at split
        refine Or.inr ⟨rest, ?_⟩
        cases after with
        | nil => cases split
        | cons parameter others => rw [(List.cons.inj split).1]
  rw [← join, ← List.append_assoc]
  have trimmed := Text.trim_of_starts flagged tail
  have content := isContent_of_trim trimmed (show _ = some '-' from rfl) (by decide)
  rw [Record.onLine?, content, if_pos rfl, ofLine?, trimmed, List.append_assoc, Text.isPrefixOf?_append]
  simp only [Text.trim_of_starts solid, Text.trimEnd_trimEnd]
  rw [join]
  exact plain.ofAddress? ended

theorem ofListing_of_notMem {line : Text} (one : '\n' ∉ line) : ofListing line = (onLine? line).toList := by
  rw [ofListing_eq, Text.fields_of_notMem one]
  cases found : onLine? line <;> simp [found]

/-- What follows the end of a line is read as if it stood alone. -/
theorem ofListing_append_line (before after : Text) :
    ofListing (before ++ '\n' :: after) = ofListing before ++ ofListing after := by
  rw [ofListing_eq, ofListing_eq, ofListing_eq, Text.fields_append, List.filterMap_append]

theorem ofListing_append {first : Text} (ended : first = [] ∨ first.getLast? = some '\n') (second : Text) :
    ofListing (first ++ second) = ofListing first ++ ofListing second := by
  rcases ended with rfl | ended
  · rfl
  · obtain ⟨before, rfl⟩ := List.getLast?_eq_some_iff.mp ended
    rw [List.append_assoc, List.singleton_append, ofListing_append_line, ofListing_append_line]
    exact congrArg (· ++ ofListing second) (List.append_nil _).symm

theorem notMem_of_mem_lines {line text : Text} (among : line ∈ text.lines) : '\n' ∉ line := by
  have cut : ∀ field ∈ Text.fields '\n' text, '\n' ∉ field := fun field member inside =>
    (Text.exists_mem_fields_iff.mp ⟨field, member, inside⟩).2 rfl
  have dropped (field : Text) : ∀ character ∈ field.dropReturn, character ∈ field := by
    intro character member
    unfold Text.dropReturn at member
    split at member
    · rename_i rest reversed
      rw [← List.mem_reverse, reversed]
      exact List.mem_cons_of_mem _ (List.mem_reverse.mp member)
    · exact member
  have finished : ∀ field ∈ (Text.fields '\n' text).dropLast.map Text.dropReturn, '\n' ∉ field := by
    intro field member inside
    obtain ⟨whole, found, rfl⟩ := List.mem_map.mp member
    exact cut whole ((List.dropLast_sublist _).subset found) (dropped whole _ inside)
  unfold Text.lines at among
  simp only [] at among
  split at among
  · exact finished line among
  · rcases List.mem_append.mp among with member | member
    · exact finished line member
    · rw [List.mem_singleton.mp member]
      exact cut _ (List.getLast_mem _)

/-- The lines of a listing can be read one at a time. -/
theorem ofListing_lines (listing : Text) : listing.lines.flatMap ofListing = ofListing listing := by
  rw [ofListing, filter_lines, List.filterMap_eq_flatMap_toList]
  exact congrArg List.flatten (List.map_congr_left fun line among => ofListing_of_notMem (notMem_of_mem_lines among))

theorem Written.onLine? {record : Record} {line : Text} (written : Written record line) :
    Record.onLine? line = some record := by
  cases written with
  | pinned plain => exact plain.onLine?
  | editable plain => exact plain.onLine?

theorem Written.one {record : Record} {line : Text} (written : Written record line) : '\n' ∉ line := by
  cases written with
  | pinned plain => simp [plain.name_line, plain.version_line]
  | editable plain =>
      have before := fun parameter member => (plain.before_others parameter member).1
      have after := plain.after_line
      simp only [List.mem_append, List.mem_cons, List.mem_flatMap, not_or, not_exists, not_and]
      refine ⟨by decide, plain.origin_line, by decide, ?_, by decide, plain.name_line, ?_⟩
      · intro parameter member
        simp [before parameter member]
      · intro parameter member
        simp [after parameter member]

theorem OnLine.one {records : List Record} {line : Text} (holds : OnLine records line) : '\n' ∉ line := by
  cases holds with
  | record written => exact written.one
  | blank one | remark one | unrecognised one => exact one

theorem OnLine.onLine? {records : List Record} {line : Text} (holds : OnLine records line) :
    (Record.onLine? line).toList = records := by
  cases holds with
  | record written => rw [written.onLine?, Option.toList_some]
  | blank _ blank => rw [onLine?_eq_none blank, Option.toList_none]
  | remark _ marked =>
      have idle : isContent line = false := by
        obtain ⟨rest, begins⟩ := List.head?_eq_some_iff.mp marked
        simp [isContent, begins, Text.startsWith, List.isPrefixOf]
      rw [Record.onLine?, idle]
      rfl
  | unrecognised _ unread =>
      rw [Record.onLine?, unread, ite_self, Option.toList_none]

/-- A carriage return ahead of the line feed is blank. -/
theorem OnLine.ofListing_ended {records : List Record} {line ending text : Text} (holds : OnLine records line)
    (ended : ending = ['\n'] ∨ ending = ['\r', '\n']) :
    ofListing (line ++ (ending ++ text)) = records ++ ofListing text := by
  rcases ended with rfl | rfl
  · rw [List.singleton_append, ofListing_append_line, ofListing_of_notMem holds.one, holds.onLine?]
  · have returned : '\n' ∉ line ++ ['\r'] := by simp [holds.one]
    have same : Record.onLine? (line ++ ['\r']) = Record.onLine? line :=
      onLine?_eq_of_trim (Text.trim_append_return line)
    rw [List.cons_append, List.singleton_append, List.append_cons, ofListing_append_line,
      ofListing_of_notMem returned, same, holds.onLine?]

theorem Listed.ofListing {records : List Record} {listing : Text} (listed : Listed records listing) :
    Record.ofListing listing = records := by
  induction listed with
  | unended holds => rw [ofListing_of_notMem holds.one, holds.onLine?]
  | line holds ended rest ih => rw [holds.ofListing_ended ended, ih]

end Record

/-- What `list` answers is what is read of the lines of `freeze`, one at a time. -/
theorem Pip.list_eq_freeze (services : Services) (wanted : Option Text) (context : Context) (world : World) :
    Pip.list services wanted context world =
      ((Pip.freeze services context world).1.map fun lines =>
        Versions.ofRecords ((lines.flatMap Record.ofListing).filter fun record => Versions.fits wanted record.name),
        (Pip.freeze services context world).2) := by
  have listed : Pip.list services wanted context world = _ := Step.bind_pure_apply _ _ world
  have frozen : Pip.freeze services context world = _ := Step.bind_pure_apply _ _ world
  rw [listed, frozen]
  cases (Pip.listing services context world).1 with
  | error failure => rfl
  | ok listing => simp only [Except.map, Record.ofListing_lines, Versions.ofListing]

/-- A listing is read back as the records that were written, whatever stands between them; texts of ended lines are
read one after another, and the lines of `freeze` one at a time. -/
theorem listings_read_back :
    (∀ (records : List Record) (listing : Text), Record.Listed records listing →
      Record.ofListing listing = records) ∧
    (∀ first second : Text, (first = [] ∨ first.getLast? = some '\n') →
      Record.ofListing (first ++ second) = Record.ofListing first ++ Record.ofListing second) ∧
    (∀ listing : Text, listing.lines.flatMap Record.ofListing = Record.ofListing listing) ∧
    ∀ services wanted context world, Pip.list services wanted context world =
      ((Pip.freeze services context world).1.map fun lines =>
        Versions.ofRecords ((lines.flatMap Record.ofListing).filter fun record => Versions.fits wanted record.name),
        (Pip.freeze services context world).2) :=
  ⟨fun _ _ listed => listed.ofListing, fun _ second ended => Record.ofListing_append ended second,
    Record.ofListing_lines, Pip.list_eq_freeze⟩

/-- Records that nearly run into each other and into what stands between them. -/
theorem listings_read_back_mixed :
    let origin : Text := "git+https://x"
    let listing : Text := "#egg==1\r\nsix===1.16 beta\r\ngarbage\n-e git+https://x#a#egg=no&egg=foo=&egg\n \n-e==#2"
    let records : List Record := [.pinned "six" "=1.16 beta", .editable "foo=" origin, .pinned "-e" "#2"]
    Record.ofListing listing = records ∧
      Record.ofListing (("egg==1\n" : Text) ++ listing) = .pinned "egg" "1" :: records := by
  intro origin listing records
  obtain ⟨reads, appends, -⟩ := listings_read_back
  have six : Record.Written (.pinned "six" "=1.16 beta") _ :=
    .pinned ⟨by decide, by decide, by decide, by decide, by decide, by decide, by decide,
      by decide, by decide, by decide⟩
  have flag : Record.Written (.pinned "-e" "#2") _ :=
    .pinned ⟨by decide, by decide, by decide, by decide, by decide, by decide, by decide,
      by decide, by decide, by decide⟩
  have plain : Record.PlainAddress origin ["a#egg=no"] "foo=" ["egg"] :=
    { origin_start := by rintro _ ⟨⟩; rfl
      origin_plain := by decide
      origin_line := by decide
      name_given := by decide
      name_plain := by decide
      name_line := by decide
      name_end := by rintro _ ⟨⟩; rfl
      before_others := by decide
      after_line := by decide }
  have remark : Record.OnLine [] "#egg==1" := .remark (by decide) (by decide)
  have garbage : Record.OnLine [] "garbage" := .unrecognised (by decide) (by decide)
  have blank : Record.OnLine [] " " := .blank (by decide) (by decide)
  have listed : Record.Listed records listing :=
    .line remark (Or.inr rfl) (.line (.record six) (Or.inr rfl) (.line garbage (Or.inl rfl)
      (.line (.record (.editable plain)) (Or.inl rfl) (.line blank (Or.inl rfl) (.unended (.record flag))))))
  have whole := reads records listing listed
  refine ⟨whole, ?_⟩
  rw [appends "egg==1\n" listing (Or.inr (by decide)), whole]
  rfl

end PipDriver
