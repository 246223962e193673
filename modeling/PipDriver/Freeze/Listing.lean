import PipDriver.Freeze.Versions
import PipDriver.Text.JsonString

/-!
Installed packages as text: a line for each, or a JSON object with a line for each.
-/

namespace PipDriver.Versions

def lines (versions : Versions) : Text :=
  versions.flatMap fun (name, version) => name ++ '=' :: '=' :: version ++ ['\n']

def objectEntry (entry : Text × Text) : Text :=
  [' ', ' '] ++ entry.1.jsonString ++ ':' :: ' ' :: entry.2.jsonString

def object (versions : Versions) : Text :=
  match versions with
  | [] => ['\x7b', '\x7d']
  | entries =>
    ['\x7b', '\n'] ++ [',', '\n'].intercalate (entries.map objectEntry) ++ ['\n', '\x7d']

end PipDriver.Versions
