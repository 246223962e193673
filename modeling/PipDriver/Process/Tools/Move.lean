import PipDriver.Process.Tools.Install

/-!
The program of the host that moves files and folders, each with all that is in it.
-/

namespace PipDriver

namespace Tools

def moveLetters : OptionLetters where
  flags := "bfinuvTZδωκς".toList
  valued := "St".toList
  optional := ['b', 'u']
  longs :=
    [("backup", 'b'), ("context", 'Z'), ("debug", 'δ'), ("force", 'f'), ("interactive", 'i'), ("no-clobber", 'n'),
     ("no-copy", 'κ'), ("no-target-directory", 'T'), ("strip-trailing-slashes", 'ς'), ("suffix", 'S'),
     ("target-directory", 't'), ("update", 'u'), ("verbose", 'v'), ("help", 'η'), ("version", 'ε')]
  closing := ['η', 'ε']

/-- Why a file that is there can not be moved, as a reader is told. -/
inductive MoveFault
  | within
  | replaced (reason : Text)
  | other (reason : Text)

namespace MoveFault

def text (fault : MoveFault) (source target : Text) : Text :=
  match fault with
  | within => "cannot move " ++ named source ++ " to a subdirectory of itself, " ++ named target
  | replaced reason => "cannot overwrite " ++ named target ++ ": " ++ reason
  | other reason => "cannot move " ++ named source ++ " to " ++ named target ++ ": " ++ reason

end MoveFault

/-- Where what lies at a location may be moved to. -/
def movePlace (disk : Disk) (folder origin : Location) (entry : Entry) (source target : Path) :
    Except MoveFault Location :=
  let isFolder : Bool := entry = .folder
  let closed := (Route.ofBytes target.bytes).closed
  let dotted := Disk.endsInDots source || Disk.endsInDots target
  match disk.find folder (Disk.openEnd target) false with
  | .error fault => .error (.other fault.reason)
  | .ok (.vacant above name _) =>
    let location := above ++ [name]
    if dotted then .error (.other Fault.busy.reason)
    else if origin.isPrefixOf location then .error .within
    else if closed && !isFolder then .error (.other Fault.notFolder.reason)
    else .ok location
  | .ok (.occupied location old) =>
    if dotted then .error (.other Fault.busy.reason)
    else if origin.isPrefixOf location && origin ≠ location then .error .within
    else if location.isPrefixOf origin && origin ≠ location then .error (.replaced "Directory not empty")
    else if closed && !isFolder then .error (.other Fault.notFolder.reason)
    else if isFolder && old ≠ .folder then .error (.other Fault.notFolder.reason)
    else if !isFolder && old = .folder then .error (.replaced Fault.isFolder.reason)
    else if !(disk.below location).isEmpty then .error (.replaced "Directory not empty")
    else .ok location

structure Moving where
  process : Process
  reading : OptionReading

namespace Moving

def refuse (moving : Moving) (machine : Machine) (text : Text) : Work := (complain moving.process text, machine)

def tell (moving : Moving) (text : Text) : Report :=
  if moving.reading.has 'v' || moving.reading.has 'δ' then Report.line text else {}

/-- What is done about files that are there already: the last option for it counts. -/
def manner? (moving : Moving) : Option GivenOption :=
  (moving.reading.options.filter fun option => option ∈ [.flag 'f', .flag 'i', .flag 'n']).getLast?

def carry (moving : Moving) (machine : Machine) (origin : Location) (entry : Entry) (source target : Text)
    (ending : Text) : Work :=
  match movePlace machine.disk moving.process.folder origin entry (.ofBytewise source) (.ofBytewise target) with
  | .error fault => moving.refuse machine (fault.text source target)
  | .ok location =>
    (moving.tell ("renamed " ++ named source ++ " -> " ++ named target ++ ending), machine.carry origin location)

def replace (moving : Moving) (machine : Machine) (origin location : Location) (entry old : Entry)
    (source target : Text) : Work :=
  let folder := moving.process.folder
  let kept? :=
    if Disk.endsInDots (.ofBytewise source) then none else Backup.path? moving.reading machine.disk folder target
  match kept? with
  | none => moving.carry machine origin entry source target []
  | some backup =>
    match movePlace machine.disk folder location old (.ofBytewise target) (.ofBytewise backup) with
    | .error _ => moving.refuse machine ("cannot backup " ++ named target ++ ": " ++ Fault.isFolder.reason)
    | .ok kept =>
      moving.carry (machine.carry location kept) (Disk.followed location kept origin) entry source target
        (" (backup: " ++ named backup ++ ")")

def place (moving : Moving) (fresh : List Location) (machine : Machine) (source target : Text) : Work :=
  let folder := moving.process.folder
  let unseen (name : Text) (fault : Fault) : Work :=
    moving.refuse machine ("cannot stat " ++ named name ++ ": " ++ fault.reason)
  let kind? := Backup.kind? moving.reading
  match machine.disk.find folder (.ofBytewise source) false with
  | .error fault => unseen source fault
  | .ok (.vacant _ _ _) => unseen source .missing
  | .ok (.occupied origin entry) =>
    let isFolder : Bool := entry = .folder
    let leads := match machine.disk.find folder (.ofBytewise source) with
      | .ok (.occupied location _) => some location
      | _ => none
    match machine.disk.find folder (.ofBytewise target) false with
    | .error .missing => moving.carry machine origin entry source target []
    | .error fault => unseen target fault
    | .ok (.vacant _ _ _) => moving.carry machine origin entry source target []
    | .ok (.occupied location old) =>
      if moving.manner? = some (.flag 'n') then moving.refuse machine ("not replacing " ++ named target)
      else if location = origin || leads = some location then
        moving.refuse machine (named source ++ " and " ++ named target ++ " are the same file")
      else if moving.manner? = some (.flag 'i') then
        ({ written := [(true, Text.toBytes (ownName moving.process ++ ": overwrite " ++ named target ++ "? "))]
           code := 1 }, machine)
      else if isFolder && old ≠ .folder && kind?.isNone then
        moving.refuse machine ("cannot overwrite non-directory " ++ named target ++ " with directory " ++ named source)
      else if old ≠ .folder && location ∈ fresh && kind? ≠ some .numbered then
        moving.refuse machine ("will not overwrite just-created " ++ named target ++ " with " ++ named source)
      else if !isFolder && old = .folder && kind?.isNone then
        moving.refuse machine ("cannot overwrite directory " ++ named target ++ " with non-directory")
      else moving.replace machine origin location entry old source target

/-- Moves files into a folder one after another. What was put there is not replaced by what comes later. -/
def placeAll (moving : Moving) (folder : Text) (fresh : List Location) (machine : Machine) : List Text → Work
  | [] => ({}, machine)
  | source :: others =>
    let opened := (source.reverse.dropWhile (· = '/')).reverse
    let last := (opened.reverse.takeWhile (· ≠ '/')).reverse
    let target := if folder.endsWith "/" then folder ++ last else folder ++ '/' :: last
    let (report, changed) := moving.place fresh machine source target
    let made := match changed.disk.find moving.process.folder (.ofBytewise target) false with
      | .ok (.occupied location _) => if report.code = 0 then [location] else []
      | _ => []
    let (more, last) := moving.placeAll folder (made ++ fresh) changed others
    (report ++ more, last)

end Moving

def moveOperands (process : Process) (machine : Machine) (reading : OptionReading) : Work :=
  let program := ownName process
  let moving : Moving := { process, reading }
  let folder (path : Text) : Except Fault Location := machine.disk.folderAt process.folder (.ofBytewise path)
  let opened (path : Text) : Text :=
    let kept := (path.reverse.dropWhile (· = '/')).reverse
    if kept = [] then path else kept
  let checked (work : Work) : Work :=
    if moving.manner? = some (.flag 'n') && (Backup.kind? reading).isSome then
      (misuse program "options --backup and --no-clobber are mutually exclusive", machine)
    else work
  match reading.valueOf? 't', (if reading.has 'ς' then reading.operands.map opened else reading.operands) with
  | some target, operands =>
    if operands = [] then (misuse program "missing file operand", machine)
    else if reading.has 'T' then
      (complain process "cannot combine --target-directory (-t) and --no-target-directory (-T)", machine)
    else match folder target with
      | .ok _ => checked (moving.placeAll target [] machine operands)
      | .error fault => (complain process ("target directory " ++ named target ++ ": " ++ fault.reason), machine)
  | none, [] => (misuse program "missing file operand", machine)
  | none, [only] => (misuse program ("missing destination file operand after " ++ named only), machine)
  | none, source :: second :: others =>
    let last := others.getLast?.getD second
    if reading.has 'T' then
      match others with
      | [] => checked (moving.place [] machine source second)
      | extra :: _ => (misuse program ("extra operand " ++ named extra), machine)
    else match folder last, others with
      | .ok _, _ => checked (moving.placeAll last [] machine (source :: second :: others).dropLast)
      | .error _, [] => checked (moving.place [] machine source second)
      | .error fault, _ => (complain process ("target " ++ named last ++ ": " ++ fault.reason), machine)

def moveFiles (process : Process) (machine : Machine) : Work :=
  match moveLetters.read process.words.tail with
  | .error fault => (optionMisuse (ownName process) fault, machine)
  | .ok reading =>
    let targets := reading.options.filter fun
      | .value 't' _ => true
      | _ => false
    if reading.has 'η' || reading.has 'ε' then ({}, machine)
    else if 1 < targets.length then (complain process "multiple target directories specified", machine)
    else match Backup.unknown? reading with
      | some text => (Backup.misnamed (ownName process) text, machine)
      | none => moveOperands process machine reading

end Tools

end PipDriver
