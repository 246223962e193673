import PipDriver.Disk.Find
import PipDriver.Shell.Pattern
import PipDriver.Text.Bytewise

/-!
Patterns against the names on a disk. A pattern is taken part by part between its slashes; what fits comes in
the order of its bytes.
-/

namespace PipDriver

namespace Disk

def names (disk : Disk) (folder : Location) : List Bytes :=
  disk.entries.filterMap fun (location, _) =>
    match folder.isPrefixOf? location with
    | some [name] => some name
    | _ => none

end Disk

namespace Shell

def patternParts (fuel : Nat) (pattern : Pattern) : List (Pattern × Text) :=
  match fuel, pattern with
  | 0, _ => []
  | _, [] => []
  | fuel + 1, pattern =>
    let part := pattern.takeWhile fun sign => sign.1 ≠ '/'
    let rest := pattern.drop part.length
    let slashes := (rest.takeWhile fun sign => sign.1 = '/').map Prod.fst
    (part, slashes) :: patternParts fuel (rest.drop slashes.length)

def fittingNames (disk : Disk) (folder : Location) (pattern : Pattern) : List Text :=
  let dotted := (pattern.head?.map Prod.fst) = some '.'
  let known : List Text := (if dotted then [['.'], ['.', '.']] else []) ++ (disk.names folder).map Bytes.bytewise
  known.filter fun name => (dotted || name.head? ≠ some '.') && matchesPattern pattern name

def expandParts (disk : Disk) (base : Location) (found : Text) : List (Pattern × Text) → List Text
  | [] =>
    match disk.find base (.ofBytewise found) false with
    | .ok (.occupied _ _) => [found]
    | _ => []
  | (part, slashes) :: rest =>
    if isOpen part then
      let above : Path := if found = [] then "." else .ofBytewise found
      match disk.folderAt base above with
      | .error _ => []
      | .ok folder =>
        (fittingNames disk folder part).flatMap fun name =>
          expandParts disk base (found ++ name ++ slashes) rest
    else expandParts disk base (found ++ part.map Prod.fst ++ slashes) rest

def expandPattern (disk : Disk) (base : Location) (pattern : Pattern) : List Text :=
  (expandParts disk base [] (patternParts (pattern.length + 1) pattern)).mergeSort fun first second =>
    compare first second != .gt

end Shell

end PipDriver
