import PipDriver.Shell.Builtin
import PipDriver.Shell.Redirect

/-!
What the first words of a command lead to: a function, a command of the shell itself, or a program. The words
behind them are expanded after that is known.
-/

namespace PipDriver.Shell

def Expansion.depth : Nat := 1000000

inductive Head
  | empty
  | function (function : Function)
  | builtin (builtin : Builtin)
  | program

structure Lead where
  /-- The name and the words behind it. -/
  known : List Text
  later : List Word
  /-- The words in front of the name. -/
  passed : List Text := []
  path : Option Text := none
  head : Head := .empty

namespace Lead

def expandFirst (runner : Runner) : List Word → Action (List Text × List Word)
  | [] => return ([], [])
  | word :: later => do
    let fields ← Expansion.fields runner Expansion.depth word
    if fields = [] then expandFirst runner later else return (fields, later)

structure Behind where
  all : List Text
  later : List Word
  command : Option (List Text × Option Text) := none

def readBehind (runner : Runner) (fuel : Nat) (all rest : List Text) (later : List Word)
    (path : Option Text) : Action Behind := do
  match fuel with
  | 0 => return { all, later }
  | fuel + 1 =>
    match rest with
    | [] =>
      let (fresh, later) ← expandFirst runner later
      if fresh = [] then return { all, later }
      else readBehind runner fuel (all ++ fresh) fresh later path
    | word :: others =>
      match word with
      | ['-', '-'] =>
        if others ≠ [] then return { all, later, command := some (others, path) }
        else
          let (fresh, later) ← expandFirst runner later
          return { all := all ++ fresh, later, command := if fresh = [] then none else some (fresh, path) }
      | '-' :: first :: letters =>
        if (first :: letters).all (· = 'p') then readBehind runner fuel all others later (some usualPath)
        else return { all, later }
      | _ => return { all, later, command := some (word :: others, path) }

def headOf (state : State) (bypasses : Bool) (name : Text) : Head :=
  match (if bypasses then none else state.function? name) with
  | some function => .function function
  | none =>
    match Builtin.find? name with
    | some builtin => .builtin builtin
    | none => .program

def resolve (runner : Runner) (fuel : Nat) (lead : Lead) : Action Lead := do
  match fuel, lead.known with
  | 0, _ => return lead
  | _, [] => return lead
  | fuel + 1, name :: rest =>
    let head := headOf (← get) (lead.passed ≠ []) name
    match head with
    | .builtin _ =>
      if name = "command" then
        let behind ← readBehind runner Expansion.depth rest rest lead.later lead.path
        match behind.command with
        | none => return { lead with known := name :: behind.all, later := behind.later, head }
        | some (known, path) =>
          let skipped := behind.all.length - known.length
          resolve runner fuel
            { known, later := behind.later, path
              passed := lead.passed ++ name :: behind.all.take skipped }
      else return { lead with head }
    | _ => return { lead with head }

def ofWords (runner : Runner) (words : List Word) : Action Lead := do
  let (known, later) ← expandFirst runner words
  resolve runner Expansion.depth { known, later }

def isSpecial (lead : Lead) : Bool :=
  lead.passed = [] && match lead.head with
    | .builtin builtin => builtin.isSpecial
    | _ => false

def isolates (lead : Lead) : Bool :=
  match lead.head with
  | .empty => false
  | _ => !lead.isSpecial

def keepsTurns (lead : Lead) : Bool :=
  match lead.head with
  | .builtin { work := .replace, .. } => true
  | _ => false

def argument (runner : Runner) (assigns : Bool) (word : Word) : Action (List Text) := do
  match (if assigns then word.assignment? else none) with
  | some (name, value) =>
    let text ← Expansion.value runner Expansion.depth value
    return [name ++ '=' :: text]
  | none => Expansion.fields runner Expansion.depth word

def words (runner : Runner) (lead : Lead) : Action (List Text) := do
  let assigns := match lead.head with
    | .builtin builtin => builtin.assigns
    | _ => false
  let more ← lead.later.mapM (argument runner assigns)
  return lead.known ++ more.flatten

end Lead

def applyTurns (runner : Runner) (turns : List Turn) : Action Bool := do
  match ← Action.outcome (turns.forM (Turn.apply runner Expansion.depth)) with
  | .ok () => return true
  | .error .fails => return false
  | .error leave => throw leave

end PipDriver.Shell
