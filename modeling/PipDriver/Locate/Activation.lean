import PipDriver.Locate.Layout

/-!
Finding the activation script of a virtual environment.
-/

namespace PipDriver.Locate

def activationScript (world : World) (layout : Layout) (environment : Option Path) :
    Except Failure Path :=
  match environment.filter fun path => !path.isEmpty with
  | none => .error (.programMissing "activate" "no virtualenv given")
  | some path =>
    let script := layout.activationIn path
    if !world.isFolder path then .error (.programMissing "activate" path.text)
    else if world.isFile script then .ok script
    else .error (.programMissing "activate" script.text)

def activation (world : World) (layout : Layout) (environment : Option Path) :
    Except Failure (Option Path) :=
  match layout with
  | .windows => .ok none
  | .posix => (activationScript world layout environment).map some

end PipDriver.Locate
