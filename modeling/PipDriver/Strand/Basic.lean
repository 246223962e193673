import PipDriver.World

/-!
Computations of several that share one disk. A strand takes one operation after the other, and others may take
theirs in between.
-/

namespace PipDriver

/-- What is left of a computation: its answer, or its next operation and how it goes on from the world that the
operation met. -/
inductive Strand (α : Type)
  | ended (answer : Except Failure α)
  | going (change : World → World) (onward : World → Strand α)

namespace Strand

def bind : Strand α → (α → Strand β) → Strand β
  | .ended (.ok value), next => next value
  | .ended (.error failure), _ => .ended (.error failure)
  | .going change onward, next => .going change fun met => (onward met).bind next

instance monadOfStrands : Monad Strand where
  pure value := .ended (.ok value)
  bind := Strand.bind

def atom (step : Step α) : Strand α := .going (fun met => (step met).2) fun met => .ended (step met).1

def orTidy (strand : Strand α) (tidy : World → World) : Strand α :=
  match strand with
  | .ended (.ok value) => .ended (.ok value)
  | .ended (.error failure) => .going tidy fun _ => .ended (.error failure)
  | .going change onward => .going change fun met => (onward met).orTidy tidy

def alone : Strand α → Step α
  | .ended answer => fun world => (answer, world)
  | .going change onward => fun world => (onward world).alone (change world)

end Strand

structure Scene (α : Type) where
  world : World
  strands : List (Strand α)

namespace Scene

/-- The world with another number drawn for the names of temporary files. -/
def drawing (world : World) (number : Nat) : World :=
  { world with host := { world.host with firstSerial := number } }

def turn? (scene : Scene α) (place number : Nat) : Option (Scene α) :=
  match scene.strands[place]? with
  | some (.going change onward) =>
    let met := drawing scene.world number
    some ⟨change met, scene.strands.set place (onward met)⟩
  | _ => none

end Scene

end PipDriver
