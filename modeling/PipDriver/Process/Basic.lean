import PipDriver.Disk.Change
import PipDriver.Host.Basic
import PipDriver.Text.Bytewise

/-!
Processes: what one is started with, what all of them share, and how one ends. The words and variables of a
process are bytes as characters.
-/

namespace PipDriver

structure Opening where
  reads : Bool := false
  writes : Bool := false
  appends : Bool := false
  /-- Whether a file that is not there is made. -/
  makes : Bool := false
  /-- Whether what was there is dropped. -/
  empties : Bool := false
deriving DecidableEq, Repr

inductive Stream
  | output
  | diagnostics
  | empty
  | pipe (bytes : ByteArray)
  | folder
  | file (location : Location) (position : Nat) (opening : Opening)

abbrev Channels := List (Nat × Nat)

structure Process where
  words : List Text
  folder : Location
  environment : List (Text × Text)
  channels : Channels := [(0, 0), (1, 1), (2, 2)]
  number : Nat := 1000
  parent : Nat := 999

inductive Ending
  | exited (code : Nat)
  | killed (signal : Nat)
deriving DecidableEq, Repr

structure Machine where
  disk : Disk
  programs : List (Location × Tool)
  accounts : List Account
  groups : List (Text × Nat)
  streams : Array Stream := #[.empty, .output, .diagnostics]
  output : ByteArray := .empty
  diagnostics : ByteArray := .empty
  /-- The number of the last process. -/
  lastNumber : Nat := 1000
  /-- Signals that have been sent and not been taken, with the numbers of the processes they are for. -/
  signals : List (Nat × Nat) := []
  /-- How often a process has slept. -/
  naps : Nat := 0
  /-- What was moved, from where and where to, the first move first. -/
  moves : List (Location × Location) := []

namespace Machine

def carry (machine : Machine) (source target : Location) : Machine :=
  let followed := Disk.followed source target
  { machine with
    disk := machine.disk.carry source target
    programs := machine.programs.filterMap fun (location, tool) =>
      if target.isPrefixOf location then none else some (followed location, tool)
    streams := machine.streams.map fun
      | .file location position opening => .file (followed location) position opening
      | stream => stream
    moves := machine.moves ++ [(source, target)] }

/-- Where a working folder is after some moves. -/
def follow (moves : List (Location × Location)) (folder : Location) : Location :=
  moves.foldl (fun folder (source, target) => Disk.followed source target folder) folder

def addStream (machine : Machine) (stream : Stream) : Nat × Machine :=
  (machine.streams.size, { machine with streams := machine.streams.push stream })

def setStream (machine : Machine) (number : Nat) (stream : Stream) : Machine :=
  { machine with streams := machine.streams.setIfInBounds number stream }

def stream? (machine : Machine) (channels : Channels) (channel : Nat) : Option (Nat × Stream) :=
  (channels.lookup channel).bind fun number =>
    machine.streams[number]?.map fun stream => (number, stream)

def openPath (machine : Machine) (channels : Channels) (folder : Location) (path : Path)
    (opening : Opening) : Except Fault (Nat × Machine) :=
  let opened (machine : Machine) (location : Location) : Except Fault (Nat × Machine) :=
    .ok (machine.addStream (.file location 0 opening))
  let withFile (location : Location) (file : File) : Machine :=
    { machine with disk := machine.disk.put location (.file file) }
  match machine.disk.find folder path with
  | .error fault => .error fault
  | .ok (.occupied location (.file file)) =>
    opened (if opening.empties then withFile location { file with bytes := .empty } else machine) location
  | .ok (.occupied _ (.device .empty)) => .ok (machine.addStream .empty)
  | .ok (.occupied _ (.device (.channel channel))) =>
    match channels.lookup channel with
    | some number => .ok (number, machine)
    | none => .error .missing
  | .ok (.occupied _ _) =>
    if opening.writes then .error .isFolder else .ok (machine.addStream .folder)
  | .ok (.vacant above name closed) =>
    if !opening.makes then .error .missing
    else if closed then .error .isFolder
    else opened (withFile (above ++ [name]) { bytes := .empty }) (above ++ [name])

def overwrite (old : ByteArray) (position : Nat) (new : ByteArray) : ByteArray :=
  let gap : ByteArray := ⟨Array.replicate (position - old.size) 0⟩
  (old ++ gap).extract 0 position ++ new ++ old.extract (position + new.size) old.size

def emitToFile (machine : Machine) (number : Nat) (location : Location) (position : Nat)
    (opening : Opening) (bytes : ByteArray) : Machine :=
  match machine.disk.get? location with
  | some (.file file) =>
    let start := if opening.appends then file.bytes.size else position
    let written := Entry.file { file with bytes := overwrite file.bytes start bytes }
    { machine with disk := machine.disk.put location written }.setStream number
      (.file location (start + bytes.size) opening)
  | _ => machine

def emit (machine : Machine) (channels : Channels) (channel : Nat) (bytes : ByteArray) :
    Option Machine :=
  match machine.stream? channels channel with
  | some (_, .output) => some { machine with output := machine.output ++ bytes }
  | some (_, .diagnostics) => some { machine with diagnostics := machine.diagnostics ++ bytes }
  | some (number, .pipe held) => some (machine.setStream number (.pipe (held ++ bytes)))
  | some (number, .file location position opening) =>
    if opening.writes then some (machine.emitToFile number location position opening bytes) else none
  | some (_, .empty) => some machine
  | _ => none

def take (machine : Machine) (channels : Channels) (channel : Nat) (count : Option Nat) :
    Except Fault (ByteArray × Machine) :=
  match machine.stream? channels channel with
  | some (number, .pipe bytes) =>
    let taken := count.getD bytes.size
    .ok (bytes.extract 0 taken, machine.setStream number (.pipe (bytes.extract taken bytes.size)))
  | some (number, .file location position opening) =>
    if !opening.reads then .error .notOpen
    else
      let bytes := match machine.disk.get? location with
        | some (.file file) => file.bytes
        | _ => .empty
      let ending := min bytes.size (position + count.getD bytes.size)
      .ok (bytes.extract position ending,
        machine.setStream number (.file location (max position ending) opening))
  | some (_, .folder) => .error .isFolder
  | some _ => .ok (.empty, machine)
  | none => .error .notOpen

end Machine

structure Report where
  written : List (Bool × ByteArray) := []
  code : Nat := 0

namespace Report

def shown (bytes : ByteArray) : Report := { written := [(false, bytes)] }

def line (text : Text) : Report := shown (Text.toBytes (text ++ ['\n']))

def complaint (text : Text) (code : Nat) : Report :=
  { written := [(true, Text.toBytes (text ++ ['\n']))], code }

def append (first second : Report) : Report :=
  { written := first.written ++ second.written, code := max first.code second.code }

instance : Append Report := ⟨append⟩

def deliver (report : Report) (channels : Channels) (machine : Machine) : Machine :=
  report.written.foldl (fun machine (diagnostic, bytes) =>
    (machine.emit channels (if diagnostic then 2 else 1) bytes).getD machine) machine

def isStuck (report : Report) (channels : Channels) (machine : Machine) : Bool :=
  report.written.any fun (diagnostic, bytes) =>
    !diagnostic && bytes.size ≠ 0 && (machine.emit channels 1 .empty).isNone

end Report

end PipDriver
