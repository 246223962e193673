import PipDriver.Disk.Basic
import PipDriver.Disk.Fault

/-!
Following a path through a disk. Names are looked up one by one from a folder, a link on the way is
followed, and at most forty links are followed in all.
-/

namespace PipDriver

open Bytes (slash dot)

/-- A path taken apart for the walk: where it starts, the names on it, and whether a slash at its end asks
for a folder. -/
structure Route where
  absolute : Bool
  names : List Bytes
  closed : Bool

def Route.ofBytes (bytes : Bytes) : Route where
  absolute := bytes.startsWith [slash]
  names := (Text.fields slash bytes).filter (· ≠ [])
  closed := bytes.endsWith [slash]

inductive Place
  | occupied (location : Location) (entry : Entry)
  | vacant (folder : Location) (name : Bytes) (closed : Bool)

namespace Disk

def longestName : Nat := 255

def longestPath : Nat := 4095

def mostLinks : Nat := 40

/-- Goes down the names from a folder. What comes of a link is up to `through`, which is given the folder, the
target, the names left and whether a folder is asked for. -/
def descend (disk : Disk) (followLast : Bool)
    (through : Location → Bytes → List Bytes → Bool → Except Fault Place) (here : Location)
    (names : List Bytes) (closed : Bool) : Except Fault Place :=
  match names with
  | [] => .ok (.occupied here .folder)
  | name :: rest =>
    if name = [dot] then disk.descend followLast through here rest closed
    else if name = [dot, dot] then disk.descend followLast through here.dropLast rest closed
    else if longestName < name.length then .error .nameTooLong
    else
      let location := here ++ [name]
      match disk.get? location with
      | none => if rest = [] then .ok (.vacant here name closed) else .error .missing
      | some .folder => disk.descend followLast through location rest closed
      | some (.link target) =>
        if rest = [] && !followLast && !closed then .ok (.occupied location (.link target))
        else through here target rest closed
      | some entry =>
        if rest = [] && !closed then .ok (.occupied location entry) else .error .notFolder

def walk (disk : Disk) (followLast : Bool) (links : Nat) (here : Location) (names : List Bytes)
    (closed : Bool) : Except Fault Place :=
  match links with
  | 0 => disk.descend followLast (fun _ _ _ _ => .error .tooManyLinks) here names closed
  | fewer + 1 =>
    let through (here : Location) (target : Bytes) (rest : List Bytes) (closed : Bool) :=
      if target = [] then .error .missing
      else
        let route := Route.ofBytes target
        let start := if route.absolute then [] else here
        disk.walk followLast fewer start (route.names ++ rest) (closed || (rest = [] && route.closed))
    disk.descend followLast through here names closed

/-- A path that may not be used at all, whatever the disk holds. -/
def pathFault? (path : Path) : Option Fault :=
  if 0 ∈ path.bytes then some .nulInPath
  else if path.isEmpty then some .missing
  else if longestPath < path.bytes.length then some .nameTooLong
  else none

def find (disk : Disk) (base : Location) (path : Path) (followLast : Bool := true) :
    Except Fault Place :=
  match pathFault? path with
  | some fault => .error fault
  | none =>
    let route := Route.ofBytes path.bytes
    disk.walk followLast mostLinks (if route.absolute then [] else base) route.names route.closed

def entryAt (disk : Disk) (base : Location) (path : Path) : Except Fault Entry :=
  match disk.find base path with
  | .ok (.occupied _ entry) => .ok entry
  | .ok (.vacant _ _ _) => .error .missing
  | .error fault => .error fault

def isFile (disk : Disk) (base : Location) (path : Path) : Bool :=
  match disk.entryAt base path with
  | .ok (.file _) => true
  | _ => false

def isFolder (disk : Disk) (base : Location) (path : Path) : Bool :=
  match disk.entryAt base path with
  | .ok .folder => true
  | _ => false

def isExecutable (disk : Disk) (base : Location) (path : Path) : Bool :=
  match disk.entryAt base path with
  | .ok (.file file) => file.executable
  | _ => false

def read (disk : Disk) (base : Location) (path : Path) : Except Fault ByteArray :=
  match disk.entryAt base path with
  | .ok (.file file) => .ok file.bytes
  | .ok (.device _) => .ok .empty
  | .ok _ => .error .isFolder
  | .error fault => .error fault

def folderAt (disk : Disk) (base : Location) (path : Path) : Except Fault Location :=
  match disk.find base path with
  | .ok (.occupied location .folder) => .ok location
  | .ok (.occupied _ _) => .error .notFolder
  | .ok (.vacant _ _ _) => .error .missing
  | .error fault => .error fault

end Disk

end PipDriver
