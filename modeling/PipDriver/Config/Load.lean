import PipDriver.Config.Basic
import PipDriver.Text.Utf8
import PipDriver.Toml.Document
import PipDriver.World

/-!
Finding and reading the configuration of a run.
-/

namespace PipDriver

namespace Config

def parse (bytes : ByteArray) : Except ConfigFault Config :=
  match Text.ofUtf8? bytes with
  | none => .error (.unreadable .notText)
  | some text =>
    match Toml.read? text with
    | none => .error .malformed
    | some entries => ofEntries entries

def load (world : World) (path : Path) : Except Failure Config :=
  match world.read path with
  | .error fault => .error (.configRefused path (.unreadable fault))
  | .ok bytes => (parse bytes).mapError (.configRefused path)

def fileVariable : Text := "PIPCTL_CONFIG"

def ownFolder : Path := "pipctl"

def userFolder (host : Host) (named : Text) (inHome : Path) : Path :=
  match host.valueOf? named with
  | some bytes =>
    if (Path.ofBytes bytes).isAbsolute then ⟨bytes⟩ else host.home.join inHome
  | none => host.home.join inHome

def usualPath (host : Host) : Path :=
  ((userFolder host "XDG_CONFIG_HOME" ".config").join ownFolder).join "config.toml"

/-- The file that the variable names must be there; the one in the usual place may be missing. -/
def find (world : World) : Except Failure Config :=
  match world.host.valueOf? fileVariable with
  | some bytes => load world ⟨bytes⟩
  | none =>
    let path := usualPath world.host
    if world.isFile path then load world path else .ok {}

end Config

namespace CachePlaces

def defaultFileRoot : Path := "/srv/salt"

def rootPath (config : CachePlaces) : Path := config.fileRoot.getD defaultFileRoot

def folderPath (config : CachePlaces) (host : Host) : Path :=
  config.folder.getD ((Config.userFolder host "XDG_CACHE_HOME" ".cache").join Config.ownFolder)

end CachePlaces

end PipDriver
