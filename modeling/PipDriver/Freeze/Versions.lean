import PipDriver.Freeze.Record
import PipDriver.Text.LowerCase

/-!
Installed packages by name, in the order of their names. The last record of a name counts.
-/

namespace PipDriver

abbrev Versions := List (Text × Text)

namespace Versions

def put (name version : Text) : Versions → Versions
  | [] => [(name, version)]
  | (listed, kept) :: rest =>
    if name = listed then (name, version) :: rest
    else if name < listed then (name, version) :: (listed, kept) :: rest
    else (listed, kept) :: put name version rest

def ofRecords (records : List Record) : Versions :=
  records.foldl (fun versions record => versions.put record.name record.version) []

/-- The name begins with the wanted text when both are in lower case; nothing wanted fits every name. -/
def fits (wanted : Option Text) (name : Text) : Bool :=
  match wanted with
  | none => true
  | some start => start = [] || name.lower.startsWith start.lower

def ofListing (listing : Text) (wanted : Option Text) : Versions :=
  ofRecords ((Record.ofListing listing).filter fun record => fits wanted record.name)

end Versions

end PipDriver
