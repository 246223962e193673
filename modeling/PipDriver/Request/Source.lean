import PipDriver.Path

/-!
Where a requirements file comes from: a path on this host, or a resource named by a URI.
-/

namespace PipDriver

def remoteScheme : Text := "salt://"

inductive Source
  | onHost (path : Path)
  | remote (uri : Text)
deriving DecidableEq, Repr

namespace Source

def parse (text : Text) : Source :=
  if text.startsWith remoteScheme then .remote text else .onHost ⟨text⟩

def isRemote : Source → Bool
  | .onHost _ => false
  | .remote _ => true

def shown : Source → Text
  | .onHost path => path.text
  | .remote uri => uri

end Source

end PipDriver
