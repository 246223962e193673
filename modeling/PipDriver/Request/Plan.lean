import PipDriver.Address.Basic
import PipDriver.Request.Editable
import PipDriver.Request.ExistsAction
import PipDriver.Request.ItemList
import PipDriver.Request.LogFile
import PipDriver.Request.Timeout

/-!
Arguments for pip, and how each option of a request becomes arguments. Most options stand behind the
requirements file, whose path is put in when it is known.
-/

namespace PipDriver

structure Plan where
  leading : List Text
  source : Option Source
  trailing : List Text
deriving DecidableEq, Repr

def requirementStart : Text := "--requirement="

def requirementTokens (requirement : Option Path) : List Text :=
  (requirement.map fun path => requirementStart ++ path.text).toList

def Plan.arguments (plan : Plan) (requirement : Option Path) : List Text :=
  plan.leading ++ requirementTokens requirement ++ plan.trailing

abbrev Tokens := Except Failure (List Text)

namespace Tokens

/-- All arguments in order; the first refusal counts. -/
def concat : List Tokens → Tokens
  | [] => .ok []
  | .error failure :: _ => .error failure
  | .ok tokens :: rest =>
    match concat rest with
    | .error failure => .error failure
    | .ok others => .ok (tokens ++ others)

def given (value : Option Text) : Option Text := value.filter (· ≠ [])

def setting (name value : Text) : Text := name ++ '=' :: value

def text (name : Text) (value : Option Text) : Tokens :=
  .ok ((given value).map (setting name)).toList

def folder (name : Text) (path : Option Path) : Tokens := text name (path.map Path.text)

def switch (name : Text) (on : Bool) : Tokens := .ok (if on then [name] else [])

def packages (list : Option ItemList) : Tokens := .ok ((list.map ItemList.packages).getD [])

def editable (entry : Text) : Tokens :=
  match Editable.check entry with
  | .ok () => .ok [setting "--editable" entry]
  | .error complaint => .error (.invalid complaint)

def editables (list : Option ItemList) : Tokens := concat ((ItemList.itemsOf list).map editable)

def log (world : World) (path : Option Path) : Tokens :=
  match path with
  | none => .ok []
  | some path =>
    match LogFile.check world path with
    | .ok () => .ok [setting "--log" path.text]
    | .error cause => .error (.logRefused path cause)

def timeout (value : Option Text) : Tokens :=
  match given value with
  | none => .ok []
  | some text =>
    match Timeout.accepted? text with
    | some number => .ok [setting "--timeout" number]
    | none => .error (.invalid (.badTimeout text))

def address (name : Text) (option : AddressOption) (value : Option Text) : Tokens :=
  match given value with
  | none => .ok []
  | some text =>
    if (Address.parse? text).isSome then .ok [setting name text]
    else .error (.invalid (.badAddress option text))

def indexConflict (off : Bool) (index extra : Option Text) : Tokens :=
  match off, (given index).or (given extra) with
  | true, some text => .error (.invalid (.indexDisabled text))
  | _, _ => .ok []

def mirror (entry : Text) : Tokens :=
  if entry.startsWith "http://" then .ok [setting "--mirrors" entry]
  else .error (.invalid (.badMirror entry))

def mirrors (list : Option ItemList) : Tokens :=
  let entries := ItemList.itemsOf list
  if entries = [] then .ok [] else concat (.ok ["--use-mirrors"] :: entries.map mirror)

def existsAction (action : Option ExistsAction) : Tokens :=
  .ok (action.map fun action => setting "--exists-action" action.letter).toList

def installOptions (options : List Text) : Tokens :=
  .ok (options.map (setting "--install-option"))

end Tokens

def Plan.ofParts (leading trailing : List Tokens) (source : Option Source) : Except Failure Plan :=
  match Tokens.concat leading with
  | .error failure => .error failure
  | .ok leading =>
    match Tokens.concat trailing with
    | .error failure => .error failure
    | .ok trailing => .ok ⟨leading, source, trailing⟩

end PipDriver
