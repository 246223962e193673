import PipDriver.Process.Tools.Files
import PipDriver.Process.Tools.Owners

/-!
The program of the host that puts files in place, along with the folders for them.
-/

namespace PipDriver

namespace Tools

def installLetters : OptionLetters where
  flags := "bcCsDdpTvZ".toList
  valued := "gmotSς".toList
  optional := ['b', 'Z']
  longs :=
    [("backup", 'b'), ("compare", 'C'), ("context", 'Z'), ("debug", 'δ'), ("directory", 'd'), ("group", 'g'),
     ("mode", 'm'), ("no-target-directory", 'T'), ("owner", 'o'), ("preserve-timestamps", 'p'),
     ("preserve-context", 'κ'), ("strip", 's'), ("strip-program", 'ς'), ("suffix", 'S'), ("target-directory", 't'),
     ("verbose", 'v'), ("help", 'η'), ("version", 'ε')]
  closing := ['η', 'ε']

namespace Mode

def signs : Text := "+-="

def classes : Text := "ugo"

/-- A clause of a mode: whom it is for, and what is done with which permissions. -/
def splitClause (clause : Text) : Text × List (Char × Text) :=
  clause.foldr (fun character (pending, actions) =>
    if character ∈ signs then ([], (character, pending) :: actions) else (character :: pending, actions)) ([], [])

def isPermission (text : Text) : Bool :=
  text.all (fun letter => letter ∈ "rwxXst".toList) || (text.length = 1 && text.all fun letter => letter ∈ classes)

def act (folder : Bool) (who runners : Text) (action : Char × Text) : Text :=
  let (sign, text) := action
  let gives := 'x' ∈ text || ('X' ∈ text && (folder || runners ≠ [])) || (runners.any fun letter => text = [letter])
  let chosen := classes.filter fun letter => letter ∈ who
  let others := runners.filter fun letter => letter ∉ who
  if sign = '=' then (if gives then others ++ chosen else others)
  else if !gives then runners
  else if sign = '+' then others ++ chosen
  else others

def applyClause (folder : Bool) (runners clause : Text) : Option Text :=
  let (who, actions) := splitClause clause
  if actions = [] || !(who.all fun letter => letter ∈ "ugoa".toList) then none
  else if actions.any fun action => !isPermission action.2 then none
  else
    let meant := if who = [] || 'a' ∈ who then classes else who
    some (actions.foldl (act folder meant) runners)

/-- Who may run a file that is made with a mode. -/
def runners? (folder : Bool) (mode : Text) : Option Text :=
  if mode ≠ [] && mode.all Escape.isOctal then
    let number := Escape.digitsValue 8 mode
    if number < 4096 then
      some ((classes.zip [64, 8, 1]).filterMap fun (letter, bit) =>
        if number / bit % 2 = 1 then some letter else none)
    else none
  else (Text.fields ',' mode).foldlM (applyClause folder) []

end Mode

inductive Backup
  | simple
  | existing
  | numbered
deriving DecidableEq, Repr

namespace Backup

def kinds : List (Text × Option Backup) :=
  [("none", none), ("off", none), ("simple", some .simple), ("never", some .simple), ("existing", some .existing),
   ("nil", some .existing), ("numbered", some .numbered), ("t", some .numbered)]

def misnamed (program text : Text) : Report :=
  misuse program ("invalid argument " ++ named text ++ " for 'backup type'\nValid arguments are:\n" ++
    "  - 'none', 'off'\n  - 'simple', 'never'\n  - 'existing', 'nil'\n  - 'numbered', 't'")

/-- The name that an old file is moved to. -/
def path (backup : Backup) (disk : Disk) (folder : Location) (target ending : Text) : Text :=
  let number (count : Nat) : Text := target ++ ".~" ++ Text.ofNat (count + 1) ++ ['~']
  let isUsed (count : Nat) : Bool := (disk.find folder (.ofBytewise (number count)) false) matches .ok (.occupied _ _)
  let used := (List.range (disk.entries.length + 1)).filter isUsed
  if backup = .numbered || (backup = .existing && used ≠ []) then
    number ((used.getLast?.map Nat.succ).getD 0)
  else target ++ ending

def unknown? (reading : OptionReading) : Option Text :=
  (reading.valueOf? 'b').filter fun text => (kinds.lookup text).isNone

def kind? (reading : OptionReading) : Option Backup :=
  match reading.valueOf? 'b' with
  | some text => (kinds.lookup text).join
  | none => if reading.has 'b' || (reading.valueOf? 'S').isSome then some .existing else none

def path? (reading : OptionReading) (disk : Disk) (folder : Location) (target : Text) : Option Text :=
  let ending := (reading.valueOf? 'S').filter fun text => text ≠ [] && '/' ∉ text
  (kind? reading).map fun backup => backup.path disk folder target (ending.getD ['~'])

end Backup

structure Placing where
  process : Process
  reading : OptionReading
  executable : Bool
  /-- Whether the owner is to be somebody else. -/
  handsOver : Bool

namespace Placing

def refuse (placing : Placing) (disk : Disk) (text : Text) : Report × Disk := (complain placing.process text, disk)

def isVerbose (placing : Placing) : Bool := placing.reading.has 'v' || placing.reading.has 'δ'

def tell (placing : Placing) (text : Text) : Report := if placing.isVerbose then Report.line text else {}

def makeFolders (placing : Placing) (disk : Disk) (path : Text) : Report × Disk :=
  let folder := placing.process.folder
  let isMissing (path : Text) : Bool := (disk.entryAt folder (.ofBytewise path)).toOption.isNone
  let isNoFolder (path : Text) : Bool := !isMissing path && !disk.isFolder folder (.ofBytewise path)
  match disk.makeFolders folder (.ofBytewise path) with
  | (.error fault, changed) =>
    let stuck := ((pathsTo path).find? isNoFolder).getD path
    let fault := if stuck = path then fault else .notFolder
    placing.refuse changed ("cannot create directory " ++ named stuck ++ ": " ++ fault.reason)
  | (.ok (), changed) =>
    (((pathsTo path).filter isMissing).foldl (fun report path =>
      report ++ placing.tell (ownName placing.process ++ ": creating directory " ++ named path)) {}, changed)

/-- What is done to a file once its bytes are in place. -/
def finish (placing : Placing) (disk : Disk) (location : Location) (bytes : ByteArray) (target : Text) :
    Report × Disk :=
  if placing.reading.has 's' then
    let program := (placing.reading.valueOf? 'ς').getD "strip"
    (complain placing.process ("cannot run " ++ named program ++ ": " ++ Fault.missing.reason), disk.erase location)
  else if placing.handsOver then
    placing.refuse (disk.put location (.file { bytes }))
      ("cannot change ownership of " ++ named target ++ ": Operation not permitted")
  else ({}, disk.put location (.file { bytes, executable := placing.executable }))

def replace (placing : Placing) (disk : Disk) (location : Location) (old : Entry) (bytes : ByteArray)
    (source target : Text) : Report × Disk :=
  let arrow := named source ++ " -> " ++ named target
  if placing.reading.has 'C' && old = .file { bytes, executable := placing.executable } then ({}, disk)
  else match Backup.path? placing.reading disk placing.process.folder target with
    | some backup =>
      match disk.move placing.process.folder location (.ofBytewise backup) with
      | .error fault => placing.refuse disk ("cannot backup " ++ named target ++ ": " ++ fault.reason)
      | .ok moved =>
        let (report, changed) := placing.finish moved location bytes target
        (placing.tell (arrow ++ " (backup: " ++ named backup ++ ")") ++ report, changed)
    | none =>
      let (report, changed) := placing.finish disk location bytes target
      (placing.tell ("removed " ++ named target) ++ placing.tell arrow ++ report, changed)

def place (placing : Placing) (fresh : List Location) (disk : Disk) (source target : Text) : Report × Disk :=
  let folder := placing.process.folder
  let uncreated (fault : Fault) : Report × Disk :=
    (placing.tell (named source ++ " -> " ++ named target) ++
      complain placing.process ("cannot create regular file " ++ named target ++ ": " ++ fault.reason), disk)
  match disk.find folder (.ofBytewise source) with
  | .error fault => placing.refuse disk ("cannot stat " ++ named source ++ ": " ++ fault.reason)
  | .ok (.vacant _ _ _) => placing.refuse disk ("cannot stat " ++ named source ++ ": " ++ Fault.missing.reason)
  | .ok (.occupied _ .folder) => placing.refuse disk ("omitting directory " ++ named source)
  | .ok (.occupied origin entry) =>
    let bytes := match entry with
      | .file file => file.bytes
      | _ => .empty
    match disk.find folder (.ofBytewise target) false with
    | .error .missing => uncreated .missing
    | .error fault => placing.refuse disk ("cannot stat " ++ named target ++ ": " ++ fault.reason)
    | .ok (.vacant above name closed) =>
      if closed then uncreated .notFolder
      else
        let (report, changed) := placing.finish disk (above ++ [name]) bytes target
        (placing.tell (named source ++ " -> " ++ named target) ++ report, changed)
    | .ok (.occupied _ .folder) =>
      placing.refuse disk ("cannot overwrite directory " ++ named target ++ " with non-directory")
    | .ok (.occupied location old) =>
      if location = origin then
        placing.refuse disk (named source ++ " and " ++ named target ++ " are the same file")
      else if location ∈ fresh && Backup.kind? placing.reading ≠ some .numbered then
        placing.refuse disk ("will not overwrite just-created " ++ named target ++ " with " ++ named source)
      else match disk.find folder (.ofBytewise source) false with
        | .ok (.occupied own (.link _)) =>
          -- The link leads to the source and is taken away first, so there is nothing left to read.
          if own = location then
            placing.refuse (disk.erase location)
              ("cannot open " ++ named source ++ " for reading: " ++ Fault.missing.reason)
          else placing.replace disk location old bytes source target
        | _ => placing.replace disk location old bytes source target

/-- Puts files in a folder one after another. What was put there is not replaced by what comes later. -/
def placeAll (placing : Placing) (folder : Text) (fresh : List Location) (disk : Disk) : List Text → Report × Disk
  | [] => ({}, disk)
  | source :: others =>
    let last := (source.reverse.takeWhile (· ≠ '/')).reverse
    let target := if folder.endsWith "/" then folder ++ last else folder ++ '/' :: last
    let (report, changed) := placing.place fresh disk source target
    let made := match changed.find placing.process.folder (.ofBytewise target) false with
      | .ok (.occupied location _) => if report.code = 0 then [location] else []
      | _ => []
    let (more, last) := placing.placeAll folder (made ++ fresh) changed others
    (report ++ more, last)

end Placing

/-- What is wrong with the options taken together, whatever the files are. -/
def installFault? (process : Process) (machine : Machine) (reading : OptionReading) : Option Report :=
  let program := ownName process
  let exclusive (name : Text) : Report :=
    misuse program ("options --compare (-C) and --" ++ name ++ " are mutually exclusive")
  let accounts := accountNumbers machine
  let unknown (letter : Char) (known : List (Text × Nat)) : Option Text :=
    (reading.valueOf? letter).filter fun name => (numberFor? known name).isNone
  let mode := reading.valueOf? 'm'
  if mode.any fun text => (Mode.runners? false text).isNone then
    some (complain process ("invalid mode " ++ named (mode.getD [])))
  else if reading.has 'C' && reading.has 'p' then some (exclusive "preserve-timestamps")
  else if reading.has 'C' && reading.has 's' then some (exclusive "strip")
  else
    ((unknown 'o' accounts).map fun name => complain process ("invalid user " ++ named name)).or
      ((unknown 'g' machine.groups).map fun name => complain process ("invalid group " ++ named name))

def stripWarning (process : Process) (reading : OptionReading) : Report :=
  if (reading.valueOf? 'ς').isSome && !reading.has 's' then
    { complain process "WARNING: ignoring --strip-program option as -s option was not specified" with code := 0 }
  else {}

def placingOf (process : Process) (machine : Machine) (reading : OptionReading) : Placing where
  process
  reading
  executable := ((reading.valueOf? 'm').bind (Mode.runners? false)).all (· ≠ [])
  handsOver :=
    ((reading.valueOf? 'o').bind (numberFor? (accountNumbers machine))).any (· ≠ 0) ||
      ((reading.valueOf? 'g').bind (numberFor? machine.groups)).any (· ≠ 0)

def installInto (placing : Placing) (machine : Machine) (folder : Text) (sources : List Text) : Work :=
  let isThere := (machine.disk.folderAt placing.process.folder (.ofBytewise folder)).toOption.isSome
  let (report, disk) :=
    if isThere || !placing.reading.has 'D' then (({} : Report), machine.disk)
    else placing.makeFolders machine.disk folder
  if report.code ≠ 0 then (report, { machine with disk })
  else
    let (more, disk) := placing.placeAll folder [] disk sources
    (report ++ more, { machine with disk })

def installAs (placing : Placing) (machine : Machine) (source target : Text) : Work :=
  let (report, disk) :=
    match placing.reading.has 'D', (pathsTo target).dropLast.getLast? with
    | true, some above =>
      match machine.disk.entryAt placing.process.folder (.ofBytewise above) with
      | .ok .folder => (({} : Report), machine.disk)
      | .ok _ =>
        placing.refuse machine.disk ("cannot create directory " ++ named above ++ ": " ++ Fault.notFolder.reason)
      | .error _ => placing.makeFolders machine.disk above
    | _, _ => ({}, machine.disk)
  if report.code ≠ 0 then (report, { machine with disk })
  else
    let (more, disk) := placing.place [] disk source target
    (report ++ more, { machine with disk })

def installFolders (process : Process) (machine : Machine) (reading : OptionReading) : Work :=
  let program := ownName process
  if reading.operands = [] then (misuse program "missing file operand", machine)
  else match installFault? process machine reading with
    | some report => (report, machine)
    | none =>
      let (report, machine) := eachName reading.operands machine (placingOf process machine reading).makeFolders
      (stripWarning process reading ++ report, machine)

def installFiles (process : Process) (machine : Machine) (reading : OptionReading) : Work :=
  let program := ownName process
  let placing := placingOf process machine reading
  let checked (work : Work) : Work :=
    match installFault? process machine reading with
    | some report => (report, machine)
    | none => (stripWarning process reading ++ work.1, work.2)
  let folder (path : Text) : Except Fault Location := machine.disk.folderAt process.folder (.ofBytewise path)
  match reading.valueOf? 't', reading.operands with
  | some target, operands =>
    if operands = [] then (misuse program "missing file operand", machine)
    else if reading.has 'T' then
      (complain process "cannot combine --target-directory (-t) and --no-target-directory (-T)", machine)
    else match folder target, reading.has 'D' with
      | .ok _, _ => checked (installInto placing machine target operands)
      | .error .missing, true => checked (installInto placing machine target operands)
      | .error fault, _ =>
        (complain process ("failed to access " ++ named target ++ ": " ++ fault.reason), machine)
  | none, [] => (misuse program "missing file operand", machine)
  | none, [only] => (misuse program ("missing destination file operand after " ++ named only), machine)
  | none, source :: second :: others =>
    let last := others.getLast?.getD second
    if reading.has 'T' then
      match others with
      | [] => checked (installAs placing machine source second)
      | extra :: _ => (misuse program ("extra operand " ++ named extra), machine)
    else match folder last, others with
      | .ok _, _ => checked (installInto placing machine last reading.operands.dropLast)
      | .error _, [] => checked (installAs placing machine source second)
      | .error fault, _ => (complain process ("target " ++ named last ++ ": " ++ fault.reason), machine)

def install (process : Process) (machine : Machine) : Work :=
  match installLetters.read process.words.tail with
  | .error fault => (optionMisuse (ownName process) fault, machine)
  | .ok reading =>
    let targets := reading.options.filter fun
      | .value 't' _ => true
      | _ => false
    if reading.has 'η' || reading.has 'ε' then ({}, machine)
    else if 1 < targets.length then (complain process "multiple target directories specified", machine)
    else if reading.has 'd' && reading.has 's' then
      (complain process "the strip option may not be used when installing a directory", machine)
    else if reading.has 'd' && targets ≠ [] then
      (complain process "target directory not allowed when installing a directory", machine)
    else match Backup.unknown? reading with
      | some text => (Backup.misnamed (ownName process) text, machine)
      | none =>
        if reading.has 'd' then installFolders process machine reading else installFiles process machine reading

end Tools

end PipDriver
