import PipDriver.Disk.Find

/-!
Changes to a disk: folders, temporary files, writing and renaming. Each change either gives a new disk or
the reason why it was refused; a refused change leaves nothing behind.
-/

namespace PipDriver.Disk

open Bytes (slash dot)

def openEnd (path : Path) : Path :=
  let kept := (path.bytes.reverse.dropWhile (· = slash)).reverse
  if kept = [] then path else ⟨kept⟩

def makeFolder (disk : Disk) (base : Location) (path : Path) : Except Fault Disk :=
  match disk.find base (openEnd path) false with
  | .ok (.occupied _ _) => .error .taken
  | .ok (.vacant folder name _) => .ok (disk.put (folder ++ [name]) .folder)
  | .error fault => .error fault

/-- Makes a folder and the folders above it that are missing. What was made stays when a later one fails. -/
def makeFolders (disk : Disk) (base : Location) (path : Path) : Except Fault Unit × Disk :=
  if path.isEmpty then (.ok (), disk)
  else match disk.makeFolder base path with
    | .ok made => (.ok (), made)
    | .error fault =>
      if fault ≠ .missing then
        (if disk.isFolder base path then .ok () else .error fault, disk)
      else match path.parent? with
        | none => (.error fault, disk)
        | some parent =>
          if parent.bytes.length < path.bytes.length then
            match disk.makeFolders base parent with
            | (.error above, changed) => (.error above, changed)
            | (.ok (), changed) =>
              match changed.makeFolder base path with
              | .ok made => (.ok (), made)
              | .error again =>
                (if changed.isFolder base path then .ok () else .error again, changed)
          else (.error fault, disk)
termination_by path.bytes.length

def padded (number : Nat) : Text :=
  let digits := Text.ofNat number
  List.replicate (6 - digits.length) '0' ++ digits

def serial (number : Nat) : Bytes := (padded number).encoded

def isFresh (disk : Disk) (name : Bytes) : Bool :=
  disk.entries.all fun entry => entry.1.getLast? ≠ some name

def freshName? (disk : Disk) (first : Nat) (avoided : List Bytes) (start ending : Bytes) : Option Bytes :=
  let numbers := List.range (disk.entries.length + avoided.length + 1)
  (numbers.map fun number => start ++ serial (first + number) ++ ending).find?
    fun name => disk.isFresh name && name ∉ avoided

def makeFile (disk : Disk) (base : Location) (path : Path) : Except Fault Disk :=
  match disk.find base path false with
  | .ok (.occupied _ _) => .error .taken
  | .ok (.vacant folder name closed) =>
    if closed then .error .isFolder else .ok (disk.put (folder ++ [name]) (.file { bytes := .empty }))
  | .error fault => .error fault

def write (disk : Disk) (base : Location) (path : Path) (file : File) : Except Fault Disk :=
  match disk.find base path with
  | .ok (.occupied location (.file old)) =>
    .ok (disk.put location (.file { file with executable := old.executable || file.executable }))
  | .ok (.occupied _ (.device _)) => .ok disk
  | .ok (.occupied _ _) => .error .isFolder
  | .ok (.vacant folder name closed) =>
    if closed then .error .isFolder else .ok (disk.put (folder ++ [name]) (.file file))
  | .error fault => .error fault

def endsInDots (path : Path) : Bool :=
  match (Route.ofBytes path.bytes).names.getLast? with
  | none => true
  | some name => name = [dot] || name = [dot, dot]

/-- Where a location has got to once what lay at one place lies at another. -/
def followed (source target location : Location) : Location :=
  match source.isPrefixOf? location with
  | some rest => target ++ rest
  | none => location

/-- Gives a file, or a folder with all that is in it, another place, in which nothing is left of what was there. -/
def carry (disk : Disk) (source target : Location) : Disk :=
  ⟨(disk.eraseBelow target).entries.map fun (location, entry) => (followed source target location, entry)⟩

/-- Where a file may be moved to: the place of a file or a link, which it replaces, or a free name. -/
def moveTarget (disk : Disk) (base : Location) (path : Path) : Except Fault Location :=
  if 0 ∈ path.bytes then .error .unsuitable
  else match disk.find base (openEnd path) false with
    | .error fault => .error fault
    | .ok place =>
      if endsInDots path then .error .busy
      else if (Route.ofBytes path.bytes).closed then .error .notFolder
      else match place with
        | .occupied _ .folder => .error .isFolder
        | .occupied location _ => .ok location
        | .vacant folder name _ => .ok (folder ++ [name])

def move (disk : Disk) (base : Location) (source : Location) (target : Path) : Except Fault Disk :=
  match disk.get? source with
  | none => .error .missing
  | some entry =>
    match disk.moveTarget base target with
    | .error fault => .error fault
    | .ok location => .ok ((disk.erase source).put location entry)

def removeFile (disk : Disk) (base : Location) (path : Path) : Except Fault Disk :=
  match disk.find base path false with
  | .ok (.occupied _ .folder) => .error .isFolder
  | .ok (.occupied location _) => .ok (disk.erase location)
  | .ok (.vacant _ _ _) => .error .missing
  | .error fault => .error fault

def plant (disk : Disk) (base : Location) (path : Path) (entry : Entry) : Disk :=
  let prepared := match path.parent? with
    | none => disk
    | some parent => (disk.makeFolders base parent).2
  match entry with
  | .folder => (prepared.makeFolders base path).2
  | .file file => (prepared.write base path file).toOption.getD prepared
  | entry =>
    match prepared.find base (openEnd path) false with
    | .ok (.vacant folder name _) => prepared.put (folder ++ [name]) entry
    | _ => prepared

def uproot (disk : Disk) (base : Location) (path : Path) : Disk :=
  match disk.find base (openEnd path) false with
  | .ok (.occupied location _) => disk.eraseBelow location
  | _ => disk

def below (disk : Disk) (folder : Location) : List (Location × Entry) :=
  disk.entries.filterMap fun (location, entry) =>
    match folder.isPrefixOf? location with
    | some (name :: rest) => some (name :: rest, entry)
    | _ => none

end PipDriver.Disk
