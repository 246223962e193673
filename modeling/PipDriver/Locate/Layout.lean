import PipDriver.World

/-!
Where a virtual environment keeps pip and its activation script.
-/

namespace PipDriver

inductive Layout
  | posix
  | windows
deriving DecidableEq, Repr

namespace Layout

def pipIn (layout : Layout) (environment : Path) : Path :=
  match layout with
  | .posix => (environment.join "bin").join "pip"
  | .windows => (environment.join "Scripts").join "pip.exe"

def activationIn (layout : Layout) (environment : Path) : Path :=
  match layout with
  | .posix => (environment.join "bin").join "activate"
  | .windows => (environment.join "Scripts").join "activate.bat"

end Layout

end PipDriver
