import PipDriver.Cache.Acquire
import PipDriver.Locate.Activation
import PipDriver.Locate.Pip
import PipDriver.Request.Plan
import PipDriver.Storage.ScopedCopy

/-!
What pip is driven through: a runner of commands, a way to change owners, a cache and a layout of virtual
environments. Runs are taken down before they start.
-/

namespace PipDriver

abbrev Runner := Invocation → Step Outcome

structure Services where
  runner : Runner
  ownership : Ownership
  cache : Cache
  layout : Layout := .posix

namespace Services

def requirementOf (command : Command) : Option Path :=
  command.tokens.findSome? fun token => (requirementStart.isPrefixOf? token).map Path.mk

def run (services : Services) (invocation : Invocation) : Step Outcome := do
  let bytes ← Step.look fun world => (requirementOf invocation.command).bind world.read?
  Step.record (.invoked invocation bytes)
  Step.byOthers (services.runner invocation)

/-- Uses the requirements file of a plan: none if the plan has none, a copy where another user shall read
it, or the file itself. There is no answer when the file cannot be had. -/
def withRequirements (services : Services) (plan : Plan) (user : Option Text) (keepOwner : Bool)
    (use : Option Path → Step α) : Step (Option α) :=
  match plan.source with
  | none => do return some (← use none)
  | some source => do
    match ← services.cache.acquire source with
    | none => return none
    | some path =>
      match user with
      | some name =>
        if keepOwner then return some (← use (some path))
        else return some (← ScopedCopy.use path name services.ownership fun copy => use (some copy))
      | none => return some (← use (some path))

end Services

end PipDriver
