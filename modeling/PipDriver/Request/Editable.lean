import PipDriver.Request.Complaint
import PipDriver.Request.Egg

/-!
Editable entries: a local path, or an address that names its package.
-/

namespace PipDriver.Editable

def isLocal (entry : Text) : Bool := entry.startsWith "file://" || entry.startsWith "/"

def accepts (entry : Text) : Bool :=
  isLocal entry || ((Egg.name? (fun _ => true) entry).any fun name => name ≠ [])

def check (entry : Text) : Except Complaint Unit :=
  if accepts entry then .ok () else .error (.namelessEditable entry)

end PipDriver.Editable
