import PipDriver.Command

/-!
Runs of pip: what is run, in which folder and as which user, and what came of it.
-/

namespace PipDriver

structure Invocation where
  command : Command
  folder : Option Path := none
  user : Option Text := none
deriving DecidableEq, Repr

structure Outcome where
  code : Int
  output : Text
  diagnostics : Text
deriving DecidableEq, Repr

def Outcome.succeeded (outcome : Outcome) : Bool := outcome.code = 0

end PipDriver
