import PipDriver.Host.Standard
import PipDriver.Process.Escape
import PipDriver.Text.Lines

/-!
Descriptions of a host, a line for each thing: a folder, a file, a program, a link or an environment variable,
with a path or name and the rest of the line as its content.
-/

namespace PipDriver

inductive SceneLine
  | folder (path : Path)
  | file (path : Path) (bytes : ByteArray)
  | program (path : Path) (bytes : ByteArray)
  | link (path : Path) (target : Text)
  | setting (name value : Text)

namespace SceneLine

def escapes : EscapeRules where
  hexadecimal := true
  numbered := some fun character => Text.bytewise [character]

def contentOf (text : Text) : ByteArray := (Escape.interpret escapes text.bytewise).text.toBytes

def firstWord (text : Text) : Text × Text := (Text.splitOnce " " text).getD (text, [])

def ofText? (line : Text) : Option SceneLine :=
  let (kind, rest) := firstWord line
  let (name, content) := firstWord rest
  if kind = "folder" then some (.folder ⟨name⟩)
  else if kind = "file" then some (.file ⟨name⟩ (contentOf content))
  else if kind = "program" then some (.program ⟨name⟩ (contentOf content))
  else if kind = "link" then some (.link ⟨name⟩ content)
  else if kind = "set" then some (.setting name content)
  else none

def addTo (line : SceneLine) (world : World) : World :=
  match line with
  | .folder path => world.plant path .folder
  | .file path bytes => world.plant path (.file { bytes })
  | .program path bytes => world.plant path (.file { bytes, executable := true })
  | .link path target => world.plant path (.link target)
  | .setting name value =>
    let others := world.host.environment.filter fun (listed, _) => listed ≠ name
    { world with host := { world.host with environment := others ++ [(name, value.encoded)] } }

end SceneLine

namespace World

def sceneFolder : Path := "/work"

def sceneVariables : List (Text × Text) :=
  [("HOME", "/root"), ("TMPDIR", "/tmp"), ("PATH", "/usr/local/bin:/usr/bin:/bin")]

def ofScene (text : Text) : World :=
  (text.lines.filterMap SceneLine.ofText?).foldl (fun world line => line.addTo world)
    (standard sceneFolder sceneVariables)

end World

end PipDriver
