import PipDriver.Disk.Fault
import PipDriver.Request.Complaint
import PipDriver.Request.Source

/-!
Everything that can keep a request from being carried out, and the message for each.
-/

namespace PipDriver

inductive LogFault
  | noPath
  | folder
  | noParent
  | refused (cause : Fault)
deriving DecidableEq, Repr

def LogFault.message : LogFault → Text
  | .noPath => "empty log path"
  | .folder => "is a directory"
  | .noParent => "parent directory does not exist"
  | .refused cause => cause.message

inductive UriFault
  | wrongScheme
  | noPath
  | outside
deriving DecidableEq, Repr

def UriFault.message : UriFault → Text
  | .wrongScheme => "expected a " ++ remoteScheme ++ " URI"
  | .noPath => "empty path"
  | .outside => "path must stay inside the file root"

inductive ConfigFault
  | unreadable (fault : Fault)
  | malformed
  | unknownKey (key : Text) (known : Text)
  | wrongKind (found wanted : Text)
deriving DecidableEq, Repr

def ConfigFault.reason? : ConfigFault → Option Text
  | .unreadable _ => none
  | .malformed => none
  | .unknownKey key known => some ("unknown field `" ++ key ++ "`, expected " ++ known)
  | .wrongKind found wanted => some ("invalid type: " ++ found ++ ", expected " ++ wanted)

def ConfigFault.message : ConfigFault → Text
  | .unreadable fault => fault.message
  | cause =>
    let reason : Text := match cause.reason? with
      | some reason => reason ++ ['\n']
      | none => []
    "TOML parse error\n" ++ reason

inductive Failure
  | programMissing (program searched : Text)
  | invalid (complaint : Complaint)
  | logRefused (path : Path) (cause : LogFault)
  | pipFailed (command : Text) (code : Int) (diagnostics : Text)
  | notStarted (program : Text) (cause : Fault)
  | requirementsMissing (source : Text)
  | configRefused (path : Path) (cause : ConfigFault)
  | file (path : Path) (fault : Fault)
  | badUri (uri : Text) (cause : UriFault)
  | ownerKept (path : Path) (user reason : Text)
deriving DecidableEq, Repr

def requirementsMissingMessage (source : Text) : Text :=
  "pip requirements file '" ++ source ++ "' not found"

def Failure.message : Failure → Text
  | .programMissing program searched =>
    "Could not find a `" ++ program ++ "` binary (searched: " ++ searched ++ ")"
  | .invalid complaint => complaint.message
  | .logRefused path cause => "'" ++ path.text ++ "' is not writeable: " ++ cause.message
  | .pipFailed command code diagnostics =>
    "Command `" ++ command ++ "` failed (exit code " ++ Text.ofInt code ++ "): " ++ diagnostics
  | .notStarted program cause => "Failed to spawn `" ++ program ++ "`: " ++ cause.message
  | .requirementsMissing source => requirementsMissingMessage source
  | .configRefused path cause => "Failed to load config at " ++ path.text ++ ": " ++ cause.message
  | .file path fault => "I/O error at " ++ path.text ++ ": " ++ fault.message
  | .badUri uri cause => "Invalid cache URI '" ++ uri ++ "': " ++ cause.message
  | .ownerKept path user reason =>
    "Failed to change owner of " ++ path.text ++ " to '" ++ user ++ "': " ++ reason

end PipDriver
