import PipDriver.Text

/-!
The tree that a TOML document describes, and how keys and headers enlarge it. Entries of a table stand in
the order in which they were first named.
-/

namespace PipDriver.Toml

inductive Form
  | headed
  | opened
  | dotted
  | inline
deriving DecidableEq, Repr

inductive Node
  | text (value : Text)
  | integer (value : Int)
  | float (shown : Text)
  | truth (value : Bool)
  | moment
  | array (elements : List Node)
  | table (form : Form) (entries : List (Text × Node))
  | tables (elements : List (List (Text × Node)))

abbrev Entries := List (Text × Node)

namespace Entries

def get? (entries : Entries) (key : Text) : Option Node := entries.lookup key

def replace (entries : Entries) (key : Text) (node : Node) : Entries :=
  entries.map fun (listed, old) => if listed = key then (listed, node) else (listed, old)

def remove (entries : Entries) (key : Text) : Entries := entries.filter fun (listed, _) => listed ≠ key

def insertKey (entries : Entries) (path : List Text) (key : Text) (node : Node) : Option Entries :=
  match path with
  | [] => if (entries.get? key).isSome then none else some (entries ++ [(key, node)])
  | step :: rest =>
    match entries.get? step with
    | none =>
      (insertKey [] rest key node).map fun inner => entries ++ [(step, .table .dotted inner)]
    | some (.table .dotted inner) =>
      (insertKey inner rest key node).map fun inner => entries.replace step (.table .dotted inner)
    | some (.table .opened inner) =>
      if rest = [] then none
      else (insertKey inner rest key node).map fun inner =>
        entries.replace step (.table .opened inner)
    | some (.tables elements) =>
      match elements.getLast? with
      | none => none
      | some last =>
        if rest = [] then none
        else (insertKey last rest key node).map fun last =>
          entries.replace step (.tables (elements.dropLast ++ [last]))
    | some _ => none

def changeAt (entries : Entries) (path : List Text) (change : Entries → Option Entries) :
    Option Entries :=
  match path with
  | [] => change entries
  | step :: rest =>
    match entries.get? step with
    | none => (changeAt [] rest change).map fun inner => entries ++ [(step, .table .opened inner)]
    | some (.table .inline _) => none
    | some (.table form inner) =>
      (changeAt inner rest change).map fun inner => entries.replace step (.table form inner)
    | some (.tables elements) =>
      match elements.getLast? with
      | none => none
      | some last =>
        (changeAt last rest change).map fun last =>
          entries.replace step (.tables (elements.dropLast ++ [last]))
    | some _ => none

def tableAt? (entries : Entries) (path : List Text) : Option Entries :=
  match path with
  | [] => some entries
  | step :: rest =>
    match entries.get? step with
    | some (.table _ inner) => tableAt? inner rest
    | some (.tables elements) => elements.getLast?.bind fun last => tableAt? last rest
    | _ => none

end Entries

structure Draft where
  done : Entries := []
  header : Option (List Text × Text) := none
  element : Bool := false
  current : Entries := []

namespace Draft

def finish (draft : Draft) : Option Entries :=
  match draft.header with
  | none => some draft.current
  | some (path, key) =>
    draft.done.changeAt path fun parent =>
      if draft.element then
        match parent.get? key with
        | some (.tables elements) => some (parent.replace key (.tables (elements ++ [draft.current])))
        | _ => none
      else some (parent.remove key ++ [(key, .table .headed draft.current)])

def startTable (draft : Draft) (path : List Text) (key : Text) : Option Draft :=
  match draft.finish with
  | none => none
  | some done =>
    match done.changeAt path some with
    | none => none
    | some opened =>
      match (opened.tableAt? path).bind fun parent => parent.get? key with
      | none => some { done := opened, header := some (path, key) }
      | some (.table .opened inner) =>
        (opened.changeAt path fun parent => some (parent.remove key)).map fun rest =>
          { done := rest, header := some (path, key), current := inner }
      | some _ => none

def startElement (draft : Draft) (path : List Text) (key : Text) : Option Draft :=
  match draft.finish with
  | none => none
  | some done =>
    let opened := done.changeAt path fun parent =>
      match parent.get? key with
      | none => some (parent ++ [(key, .tables [])])
      | some (.tables _) => some parent
      | some _ => none
    opened.map fun rest => { done := rest, header := some (path, key), element := true }

def addKey (draft : Draft) (path : List Text) (key : Text) (node : Node) : Option Draft :=
  (draft.current.insertKey path key node).map fun current => { draft with current }

end Draft

end PipDriver.Toml
