import PipDriver.Request.Complaint
import PipDriver.Text.Blank

/-!
What pip does when a path that it wants to make is there already.
-/

namespace PipDriver

inductive ExistsAction
  | switch
  | ignore
  | wipe
  | backup
deriving DecidableEq, Repr

namespace ExistsAction

def letter : ExistsAction → Text
  | .switch => "s"
  | .ignore => "i"
  | .wipe => "w"
  | .backup => "b"

def word : ExistsAction → Text
  | .switch => "switch"
  | .ignore => "ignore"
  | .wipe => "wipe"
  | .backup => "backup"

def all : List ExistsAction := [.switch, .ignore, .wipe, .backup]

def parse (text : Text) : Except Complaint ExistsAction :=
  let given := text.trim.asciiLower
  match all.find? fun action => given = action.letter || given = action.word with
  | some action => .ok action
  | none => .error (.unknownAction text)

end ExistsAction

end PipDriver
