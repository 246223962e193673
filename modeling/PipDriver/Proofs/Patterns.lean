import Mathlib.Data.List.Infix
import PipDriver.Text

/-!
Patterns for text as regular expressions write them, tried in order: of the places where one fits the leftmost is
taken, and of the ways in which it fits there the first.
-/

namespace PipDriver.Text

inductive Pattern
  | exactly (marker : Text)
  | one (allowed : Char → Bool)
  /-- As few characters as will do. -/
  | few (allowed : Char → Bool)
  /-- As many characters as there are. -/
  | many (allowed : Char → Bool)
  | either (first second : Pattern)
  | next (first second : Pattern)
  | captured (inner : Pattern)

def leftovers (allowed : Char → Bool) : Text → List Text
  | [] => [[]]
  | character :: rest => (character :: rest) :: if allowed character then leftovers allowed rest else []

namespace Pattern

def ways : Pattern → Text → List (List Text × Text)
  | exactly marker, text => (marker.isPrefixOf? text).toList.map fun rest => ([], rest)
  | one _, [] => []
  | one allowed, character :: rest => if allowed character then [([], rest)] else []
  | few allowed, text => (leftovers allowed text).map fun rest => ([], rest)
  | many allowed, text => (leftovers allowed text).reverse.map fun rest => ([], rest)
  | either first second, text => first.ways text ++ second.ways text
  | next first second, text =>
    (first.ways text).flatMap fun way => (second.ways way.2).map fun (more, rest) => (way.1 ++ more, rest)
  | captured inner, text =>
    (inner.ways text).map fun (more, rest) => (text.take (text.length - rest.length) :: more, rest)

def captures? (pattern : Pattern) (text : Text) : Option (List Text) := (pattern.ways text).head?.map Prod.fst

/-- What is captured at the leftmost place that fits. -/
def search? (pattern : Pattern) : Text → Option (List Text)
  | [] => pattern.captures? []
  | character :: rest => (pattern.captures? (character :: rest)).or (pattern.search? rest)

theorem leftovers_getLast? (allowed : Char → Bool) (text : Text) :
    (leftovers allowed text).getLast? = some (text.dropWhile allowed) := by
  induction text with
  | nil => rfl
  | cons character rest ih =>
      by_cases fits : allowed character = true
      · rw [leftovers, if_pos fits, List.getLast?_cons, ih, List.dropWhile_cons_of_pos fits, Option.getD_some]
      · rw [leftovers, if_neg fits, List.dropWhile_cons_of_neg fits, List.getLast?_singleton]

theorem take_of_dropWhile (allowed : Char → Bool) (text : Text) :
    text.take (text.length - (text.dropWhile allowed).length) = text.takeWhile allowed := by
  have split := congrArg List.length (List.takeWhile_append_dropWhile (p := allowed) (l := text))
  rw [List.length_append] at split
  rw [show text.length - (text.dropWhile allowed).length = (text.takeWhile allowed).length by omega]
  exact List.prefix_iff_eq_take.mp (List.takeWhile_prefix allowed) |>.symm

section Ways

variable (first second third : Pattern) (allowed : Char → Bool) (marker text : Text)

theorem captures?_exactly_next : (next (exactly marker) second).captures? text =
    (marker.isPrefixOf? text).bind second.captures? := by
  unfold captures?
  simp only [ways]
  cases marker.isPrefixOf? text with
  | none => rfl
  | some rest => simp

theorem captures?_few_next : (next (few allowed) second).captures? text =
    (leftovers allowed text).findSome? second.captures? := by
  unfold captures?
  simp only [ways, List.flatMap_map, List.head?_flatMap, List.map_findSome?]
  congr 1
  funext rest
  simp

theorem captures?_either_next : (next (either first second) third).captures? text =
    ((next first third).captures? text).or ((next second third).captures? text) := by
  simp only [captures?, ways, List.flatMap_append, List.head?_append, Option.map_or]

theorem captures?_next_next : (next (next first second) third).captures? text =
    (next first (next second third)).captures? text := by
  simp [captures?, ways, List.flatMap_assoc, List.flatMap_map, List.map_flatMap, Function.comp_def]

theorem captures?_captured_many : (captured (many allowed)).captures? text = some [text.takeWhile allowed] := by
  simp [captures?, ways, List.head?_reverse, leftovers_getLast?, take_of_dropWhile]

theorem captures?_captured_some : (captured (next (one allowed) (many allowed))).captures? text =
    if text.takeWhile allowed = [] then none else some [text.takeWhile allowed] := by
  cases text with
  | nil => rfl
  | cons character rest =>
      by_cases fits : allowed character = true
      · have shorter : (rest.dropWhile allowed).length ≤ rest.length := (List.dropWhile_suffix allowed).length_le
        have taken := take_of_dropWhile allowed rest
        simp [captures?, ways, fits, List.head?_reverse, leftovers_getLast?, Nat.succ_sub shorter, taken]
      · simp [captures?, ways, fits]

end Ways

end Pattern

end PipDriver.Text
