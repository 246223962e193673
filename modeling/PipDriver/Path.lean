import PipDriver.Text.Utf8

/-!
Paths as they are written. Nothing here looks at a disk: joining, the parent and the components follow
from the bytes alone. A reader sees the text that the bytes spell.
-/

namespace PipDriver

open Bytes (slash dot)

structure Path where
  ofBytes ::
  bytes : Bytes
deriving DecidableEq, Repr

namespace Path

def mk (text : Text) : Path := ⟨text.encoded⟩

/-- Bytes that spell no text are replaced here, so that paths which differ may read the same. -/
def text (path : Path) : Text := path.bytes.decoded

inductive Component
  | root
  | current
  | parent
  | name (bytes : Bytes)
deriving DecidableEq, Repr

instance pathOfString : Coe String Path := ⟨fun text => mk text.toList⟩

def isAbsolute (path : Path) : Bool := path.bytes.startsWith [slash]

def isEmpty (path : Path) : Bool := path.bytes.isEmpty

/-- An absolute second path stands alone; otherwise a slash is put between, unless one is there. -/
def join (base rest : Path) : Path :=
  if rest.isAbsolute || base.isEmpty then rest
  else if base.bytes.endsWith [slash] then ⟨base.bytes ++ rest.bytes⟩
  else ⟨base.bytes ++ slash :: rest.bytes⟩

/-- What a path begins with before its segments: a slash, a leading dot, or nothing. -/
def lead : Bytes → Bytes
  | slash :: _ => [slash]
  | [dot] => [dot]
  | dot :: slash :: _ => [dot]
  | _ => []

def segments (path : Path) : List Bytes :=
  Text.fields slash (path.bytes.drop (lead path.bytes).length)

def isIdle (segment : Bytes) : Bool := segment == [] || segment == [dot]

def segmentComponent (segment : Bytes) : Option Component :=
  if isIdle segment then none else if segment = [dot, dot] then some .parent else some (.name segment)

def components (path : Path) : List Component :=
  let first := match lead path.bytes with
    | [slash] => [.root]
    | [dot] => [.current]
    | _ => []
  first ++ path.segments.filterMap segmentComponent

def dropIdleEnd (segments : List Bytes) : List Bytes :=
  (segments.reverse.dropWhile isIdle).reverse

/-- The path without its last component; the root and the empty path have none. -/
def parent? (path : Path) : Option Path :=
  let start := lead path.bytes
  match dropIdleEnd path.segments with
  | [] => if start = [dot] then some "" else none
  | first :: others =>
    let kept := dropIdleEnd (first :: others).dropLast
    some ⟨start ++ [slash].intercalate kept⟩

end Path

end PipDriver
