/-!
Sets of characters given as ranges of code points.
-/

namespace PipDriver.Text

abbrev Ranges := List (Nat × Nat)

def Ranges.contains (ranges : Ranges) (character : Char) : Bool :=
  ranges.any fun (first, last) => first ≤ character.toNat && character.toNat ≤ last

end PipDriver.Text
