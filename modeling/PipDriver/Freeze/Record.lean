import PipDriver.Request.Egg
import PipDriver.Text.Blank
import PipDriver.Text.Lines

/-!
Lines of a listing of installed packages: `name==version`, or `-e` and an address that names the package.
-/

namespace PipDriver

inductive Record
  | pinned (name version : Text)
  | editable (name origin : Text)
deriving DecidableEq, Repr

namespace Record

def name : Record → Text
  | .pinned name _ => name
  | .editable name _ => name

def version : Record → Text
  | .pinned _ version => version
  | .editable _ origin => origin

def isEditable : Record → Bool
  | .pinned _ _ => false
  | .editable _ _ => true

/-- An address with a name in its fragment; the origin is what stands before the fragment. -/
def ofAddress? (address : Text) : Option Record :=
  (Egg.name? (fun name => name ≠ []) address).map fun name =>
    .editable name (address.takeWhile (· ≠ '#'))

def ofPin? (text : Text) : Option Record :=
  match Text.splitOnce "==" text with
  | none => none
  | some (name, version) =>
    if name.trim = [] || version.trim = [] then none
    else some (.pinned name.trim version.trim)

def ofLine? (line : Text) : Option Record :=
  match ("-e " : Text).isPrefixOf? line.trim with
  | some rest => ofAddress? (Text.trim rest)
  | none => ofPin? line.trim

def isContent (line : Text) : Bool := line.trim ≠ [] && !line.trim.startsWith "#"

def ofListing (listing : Text) : List Record :=
  (listing.lines.filter isContent).filterMap ofLine?

end Record

end PipDriver
