import PipDriver.Locate.Layout

/-!
Finding pip: on the search path, in a virtual environment, or where the request says.
-/

namespace PipDriver.Locate

def pipNames : List Text := ["pip2", "pip", "pip-python"]

abbrev colon : UInt8 := 58

@[match_pattern] abbrev tilde : UInt8 := 126

def searchEntries (searchPath : Bytes) : List Path := (Text.fields colon searchPath).map Path.ofBytes

def componentBytes : Path.Component → Bytes
  | .root => "/"
  | .current => "."
  | .parent => ".."
  | .name bytes => bytes

def expandHome (host : Host) (entry : Path) : Path :=
  match entry.components with
  | .name [tilde] :: rest => rest.foldl (fun path part => path.join ⟨componentBytes part⟩) host.home
  | _ => entry

/-- Every path under which pip could be found, the most wanted first: names come before entries. -/
def candidates (host : Host) (entries : List Path) : List Path :=
  pipNames.flatMap fun name => entries.map fun entry => (expandHome host entry).join (.mk name)

def searchedNames : Text := "PATH for " ++ [',', ' '].intercalate pipNames

def onSearchPath (world : World) (searchPath : Option Bytes) : Except Failure Path :=
  let entries := (searchPath.map searchEntries).getD []
  match (candidates world.host entries).find? world.isExecutable with
  | some path => .ok path
  | none => .error (.programMissing "pip" searchedNames)

def pipIn (world : World) (layout : Layout) (chosen : Option Path) (searchPath : Option Bytes) :
    Except Failure Path :=
  match chosen.filter fun path => !path.isEmpty with
  | none => onSearchPath world searchPath
  | some path =>
    if world.isFolder path then
      let pip := layout.pipIn path
      if world.isFile pip then .ok pip else .error (.programMissing "pip" pip.text)
    else .ok path

def pip (world : World) (layout : Layout) (chosen : Option Path) : Except Failure Path :=
  pipIn world layout chosen (world.host.valueOf? "PATH")

end PipDriver.Locate
