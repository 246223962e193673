import PipDriver.Text

/-!
Package names in the fragment of a repository address. A name follows `egg=` directly after a number sign,
or after an ampersand with no line feed between it and the number sign. The first place counts, where the
places after one number sign come before those after the next.
-/

namespace PipDriver.Egg

def nameAt? (wanted : Text → Bool) (text : Text) : Option Text :=
  match ("egg=" : Text).isPrefixOf? text with
  | none => none
  | some rest =>
    let name := rest.takeWhile (· ≠ '&')
    if wanted name then some name else none

def nameAfterAmpersand? (wanted : Text → Bool) : Text → Option Text
  | [] => none
  | character :: rest =>
    if character = '\n' then none
    else if character = '&' then
      (nameAt? wanted rest).or (nameAfterAmpersand? wanted rest)
    else nameAfterAmpersand? wanted rest

def name? (wanted : Text → Bool) : Text → Option Text
  | [] => none
  | character :: rest =>
    if character = '#' then
      ((nameAt? wanted rest).or (nameAfterAmpersand? wanted rest)).or (name? wanted rest)
    else name? wanted rest

end PipDriver.Egg
