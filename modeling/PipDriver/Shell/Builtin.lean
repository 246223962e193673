import PipDriver.Shell.Builtin.Describe
import PipDriver.Shell.Builtin.Jobs
import PipDriver.Shell.Builtin.Place
import PipDriver.Shell.Builtin.Printing
import PipDriver.Shell.Condition

/-!
The commands that a shell carries out itself.
-/

namespace PipDriver.Shell

inductive Work
  | plain (action : List Text → Action Nat)
  /-- Reads the arguments as commands. -/
  | evaluate
  /-- Reads a file as commands. -/
  | source
  /-- Puts a program in the place of the shell. -/
  | replace

structure Builtin where
  isSpecial : Bool
  /-- Whether arguments in the form of assignments stay whole. -/
  assigns : Bool
  /-- Whether processes in the background run to their ends first. -/
  waits : Bool
  work : Work

namespace Builtin

def leaveLoops (leave : Nat → Leave) (arguments : List Text) : Action Nat := do
  let count ← match arguments with
    | [] => pure 1
    | word :: _ =>
      let number ← plainNumber word
      if number = 0 then Action.fail ("Illegal number: " ++ word)
      pure number
  let reached := min count (← get).loops
  if reached = 0 then return 0
  else
    Action.setCode 0
    throw (leave reached)

def giveBack (arguments : List Text) : Action Nat := do
  match arguments with
  | [] => throw .returns
  | word :: _ =>
    Action.setCode (← plainNumber word)
    throw .returns

def exit (arguments : List Text) : Action Nat := do
  match arguments with
  | [] =>
    let state ← get
    Action.setCode (state.savedCode.getD state.code)
  | word :: _ => Action.setCode (← plainNumber word)
  throw .exits

def bracket (arguments : List Text) : Action Nat := do
  match arguments.getLast?.map fun word => word.head? with
  | some (some ']') => testCode arguments.dropLast
  | _ => Action.fail "missing ]"

def succeed (_ : List Text) : Action Nat := return 0

def fail (_ : List Text) : Action Nat := return 1

def specials : List (Text × Work) :=
  [(".", .source), (":", .plain succeed), ("break", .plain (leaveLoops .breaks)),
   ("continue", .plain (leaveLoops .continues)), ("eval", .evaluate), ("exec", .replace),
   ("exit", .plain exit), ("export", .plain exportNames), ("local", .plain makeLocal),
   ("readonly", .plain protectNames), ("return", .plain giveBack), ("set", .plain setCommand),
   ("shift", .plain shift), ("times", .plain times), ("trap", .plain trap), ("unset", .plain unsetNames)]

def regulars : List (Text × (List Text → Action Nat)) :=
  [("alias", aliases), ("bg", resume), ("cd", changeFolder), ("chdir", changeFolder), ("command", lookUp),
   ("echo", echo), ("false", fail), ("fg", resume), ("getopts", readOptionCommand), ("hash", tracked),
   ("jobs", listJobs), ("kill", kill), ("printf", printf), ("pwd", printFolder), ("read", readLine),
   ("test", testCode), ("[", bracket), ("true", succeed), ("type", describeAll), ("ulimit", limits),
   ("umask", setMask), ("unalias", unalias), ("wait", wait)]

def find? (name : Text) : Option Builtin :=
  match specials.lookup name with
  | some work =>
    some
      { isSpecial := true, work, waits := false
        assigns := name ∈ (["export", "local", "readonly"] : List Text) }
  | none =>
    (regulars.lookup name).map fun action =>
      { isSpecial := false, work := .plain action, assigns := name = "alias", waits := name = "wait" }

end Builtin

end PipDriver.Shell
