import PipDriver.Path
import PipDriver.Text.Quoted

/-!
Why an operation on files or programs is refused, with the text that a message shows for it.
-/

namespace PipDriver

inductive Fault
  | missing
  | badFormat
  | tooBig
  | notOpen
  | denied
  | busy
  | taken
  | notFolder
  | isFolder
  | unsuitable
  | nameTooLong
  | tooManyLinks
  | nulInPath
  | nulInArgument
  | notText
  | notRegular
  | refused
  /-- A temporary file could not be made at this path. -/
  | unplaced (cause : Fault) (path : Path)
deriving DecidableEq, Repr

namespace Fault

def system? : Fault → Option (Nat × Text)
  | .missing => some (2, "No such file or directory")
  | .tooBig => some (7, "Argument list too long")
  | .badFormat => some (8, "Exec format error")
  | .notOpen => some (9, "Bad file descriptor")
  | .denied => some (13, "Permission denied")
  | .busy => some (16, "Device or resource busy")
  | .taken => some (17, "File exists")
  | .notFolder => some (20, "Not a directory")
  | .isFolder => some (21, "Is a directory")
  | .unsuitable => some (22, "Invalid argument")
  | .nameTooLong => some (36, "File name too long")
  | .tooManyLinks => some (40, "Too many levels of symbolic links")
  | _ => none

def reason (fault : Fault) : Text :=
  match fault with
  | .nulInPath => "file name contained an unexpected NUL byte"
  | .nulInArgument => "nul byte found in provided data"
  | .notText => "stream did not contain valid UTF-8"
  | .notRegular => "the source path is neither a regular file nor a symlink to a regular file"
  | .refused => "spawn refused"
  | .unplaced cause _ => cause.reason
  | fault => ((system? fault).map Prod.snd).getD []

def message (fault : Fault) : Text :=
  match fault with
  | .unplaced cause path => cause.message ++ " at path " ++ path.bytes.quotedPath
  | fault =>
    match system? fault with
    | some (number, wording) => wording ++ " (os error " ++ Text.ofNat number ++ ")"
    | none => fault.reason

end Fault

end PipDriver
