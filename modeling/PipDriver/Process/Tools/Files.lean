import PipDriver.Disk.Change
import PipDriver.Process.Figure
import PipDriver.Process.Tools.Complaint

/-!
The programs of the host that read files, make and remove them, or take their paths apart.
-/

namespace PipDriver

namespace Tools

abbrev Work := Report × Machine

def concatenateLetters : OptionLetters where
  flags := "benstuvAET".toList
  longs :=
    [("show-all", 'A'), ("number-nonblank", 'b'), ("show-ends", 'E'), ("number", 'n'),
     ("squeeze-blank", 's'), ("show-tabs", 'T'), ("show-nonprinting", 'v')]

structure Shape where
  ends : Bool
  tabs : Bool
  signs : Bool
  numbers : Bool
  fullNumbers : Bool
  squeezes : Bool

def Shape.ofReading (reading : OptionReading) : Shape where
  ends := reading.has 'E' || reading.has 'A' || reading.has 'e'
  tabs := reading.has 'T' || reading.has 'A' || reading.has 't'
  signs := reading.has 'v' || reading.has 'A' || reading.has 'e' || reading.has 't'
  numbers := reading.has 'n' && !reading.has 'b'
  fullNumbers := reading.has 'b'
  squeezes := reading.has 's'

def spelled (byte : Char) : Text :=
  let low (byte : Char) : Text :=
    if byte < ' ' then ['^', Char.ofNat (byte.toNat + 64)]
    else if byte = '\x7f' then ['^', '?']
    else [byte]
  if byte.toNat < 128 then low byte else 'M' :: '-' :: low (Char.ofNat (byte.toNat - 128))

def shapeLines (shape : Shape) (number : Nat) (blank : Bool) : List Text → Text
  | [] => []
  | [last] =>
    if last = [] then [] else shapeLine shape number last
  | line :: others =>
    if shape.squeezes && blank && line = [] then shapeLines shape number true others
    else
      let counts := shape.numbers || (shape.fullNumbers && line ≠ [])
      shapeLine shape number line ++ (if shape.ends then ['$'] else []) ++ '\n' ::
        shapeLines shape (if counts then number + 1 else number) (line = []) others
where
  shapeLine (shape : Shape) (number : Nat) (line : Text) : Text :=
    let counts := shape.numbers || (shape.fullNumbers && line ≠ [])
    let digits := Text.ofNat number
    let front := if counts then List.replicate (6 - digits.length) ' ' ++ digits ++ ['\t'] else []
    front ++ line.flatMap fun byte =>
      if byte = '\t' then (if shape.tabs then ['^', 'I'] else ['\t'])
      else if shape.signs then spelled byte
      else [byte]

def readOne (process : Process) (machine : Machine) (name : Text) : Except Fault ByteArray × Machine :=
  if name = "-" then
    match machine.take process.channels 0 none with
    | .ok (bytes, machine) => (.ok bytes, machine)
    | .error fault => (.error fault, machine)
  else
    match machine.openPath process.channels process.folder (.ofBytewise name) { reads := true } with
    | .error fault => (.error fault, machine)
    | .ok (stream, opened) =>
      match opened.take [(0, stream)] 0 none with
      | .ok (bytes, machine) => (.ok bytes, machine)
      | .error fault => (.error fault, machine)

def concatenate (process : Process) (machine : Machine) : Work :=
  match concatenateLetters.read process.words.tail with
  | .error fault => (optionMisuse (ownName process) fault, machine)
  | .ok reading =>
    let names := if reading.operands = [] then [['-']] else reading.operands
    let (text, complaints, machine) := names.foldl (fun (text, complaints, machine) name =>
      match readOne process machine name with
      | (.ok bytes, machine) => (text ++ Text.ofBytes bytes, complaints, machine)
      | (.error fault, machine) =>
        (text, complaints ++ complain process (name ++ ": " ++ fault.reason), machine))
      (([] : Text), ({} : Report), machine)
    let shaped := shapeLines (.ofReading reading) 1 false (Text.fields '\n' text)
    (Report.shown shaped.toBytes ++ complaints, machine)

def eachName (names : List Text) (machine : Machine) (step : Disk → Text → Report × Disk) : Work :=
  names.foldl (fun (report, machine) name =>
    let (more, disk) := step machine.disk name
    (report ++ more, { machine with disk })) ({}, machine)

def told (process : Process) (reading : OptionReading) (text : Text) : Report :=
  if reading.has 'v' then Report.line (ownName process ++ ": " ++ text) else {}

def pathsTo (path : Text) : List Text :=
  let isEnd (count : Nat) : Bool :=
    path[count - 1]? ≠ some '/' && path[count]? = some '/' && (path.drop count).any (· ≠ '/')
  ((List.range path.length).filter fun count => 0 < count && isEnd count).map path.take ++ [path]

def makeFolder (process : Process) (machine : Machine) : Work :=
  let letters : OptionLetters :=
    { flags := "pv".toList, valued := ['m'], longs := [("parents", 'p'), ("verbose", 'v'), ("mode", 'm')] }
  match letters.read process.words.tail with
  | .error fault => (optionMisuse (ownName process) fault, machine)
  | .ok reading =>
    if reading.operands = [] then (misuse (ownName process) "missing operand", machine)
    else eachName reading.operands machine fun disk name =>
      let refuse (disk : Disk) (fault : Fault) : Report × Disk :=
        (complain process ("cannot create directory " ++ named name ++ ": " ++ fault.reason), disk)
      let made (disk : Disk) (paths : List Text) : Report :=
        (paths.filter fun path => (disk.entryAt process.folder (.ofBytewise path)).toOption.isNone).foldl
          (fun report path => report ++ told process reading ("created directory " ++ named path)) {}
      if reading.has 'p' then
        match disk.makeFolders process.folder (.ofBytewise name) with
        | (.ok _, after) => (made disk (pathsTo name), after)
        | (.error fault, _) => refuse disk fault
      else match disk.makeFolder process.folder (.ofBytewise name) with
        | .ok after => (made disk [name], after)
        | .error fault => refuse disk fault

def withoutFolder (disk : Disk) (base : Location) (path : Text) : Except Text Disk :=
  match disk.find base (Disk.openEnd (.ofBytewise path)) false with
  | .ok (.occupied location .folder) =>
    if (disk.below location).isEmpty then .ok (disk.erase location) else .error "Directory not empty"
  | .ok (.occupied _ _) => .error Fault.notFolder.reason
  | .ok (.vacant _ _ _) => .error Fault.missing.reason
  | .error fault => .error fault.reason

def removeFolders (process : Process) (reading : OptionReading) (what : Text) (disk : Disk) :
    List Text → Report × Disk
  | [] => ({}, disk)
  | path :: others =>
    let telling := told process reading ("removing directory, " ++ named path)
    match withoutFolder disk process.folder path with
    | .error reason => (telling ++ complain process (what ++ named path ++ ": " ++ reason), disk)
    | .ok after =>
      let (report, last) := removeFolders process reading "failed to remove directory " after others
      (telling ++ report, last)

def removeFolder (process : Process) (machine : Machine) : Work :=
  let letters : OptionLetters := { flags := "pv".toList, longs := [("parents", 'p'), ("verbose", 'v')] }
  match letters.read process.words.tail with
  | .error fault => (optionMisuse (ownName process) fault, machine)
  | .ok reading =>
    if reading.operands = [] then (misuse (ownName process) "missing operand", machine)
    else eachName reading.operands machine fun disk name =>
      let above := if reading.has 'p' then (pathsTo name).dropLast.reverse else []
      removeFolders process reading "failed to remove " disk (name :: above)

def tellRemoved (disk : Disk) (location : Location) (path : Text) : Report :=
  let front := (path.reverse.dropWhile (· = '/')).reverse
  let inside := (disk.below location).map fun (names, entry) =>
    (['/'].intercalate (front :: names.map Bytes.bytewise), entry)
  let sorted := inside.mergeSort fun first second => compare first.1 second.1 != .lt
  let lines := sorted.map fun (name, entry) =>
    (if entry = .folder then "removed directory ".toList else "removed ".toList) ++ named name
  (lines ++ ["removed directory " ++ named path]).foldl (fun report text => report ++ Report.line text) {}

def removeQuestion (entry : Entry) (isEmpty : Bool) (name : Text) : Text :=
  let what : Text := match entry with
    | .folder => if isEmpty then "remove directory " else "descend into directory "
    | .file file => if file.bytes.size = 0 then "remove regular empty file " else "remove regular file "
    | .link _ => "remove symbolic link "
    | .device _ => "remove character special file "
  what ++ named name ++ "? "

def removeLetters : OptionLetters where
  flags := "rRfdiIv".toList
  longs := [("recursive", 'r'), ("force", 'f'), ("dir", 'd'), ("verbose", 'v')]

def removeAt (process : Process) (reading : OptionReading) (disk : Disk) (name : Text) : Report × Disk :=
  let path := Path.ofBytewise name
  let refuse (reason : Text) : Report × Disk :=
    (complain process ("cannot remove " ++ named name ++ ": " ++ reason), disk)
  let absent (fault : Fault) : Bool := reading.has 'f' && (fault = .missing || fault = .notFolder)
  let whole := reading.has 'r' || reading.has 'R'
  let asks := (reading.options.filter fun option => option ∈ [.flag 'i', .flag 'f']).getLast? = some (.flag 'i')
  let ask (entry : Entry) (isEmpty : Bool) : Report × Disk :=
    let question := ownName process ++ ": " ++ removeQuestion entry isEmpty name
    ({ written := [(true, question.toBytes)] }, disk)
  match disk.find process.folder (Disk.openEnd path) false with
  | .ok (.occupied location .folder) =>
    let isEmpty := (disk.below location).isEmpty
    if !whole && !(reading.has 'd' && isEmpty) then
      refuse (if reading.has 'd' then "Directory not empty" else Fault.isFolder.reason)
    else if Disk.endsInDots path then
      (complain process ("refusing to remove '.' or '..' directory: skipping " ++ named name), disk)
    else if asks then ask .folder isEmpty
    else (if reading.has 'v' then tellRemoved disk location name else {}, disk.eraseBelow location)
  | .ok (.occupied location entry) =>
    if path.bytes.endsWith [Bytes.slash] then refuse Fault.notFolder.reason
    else if asks then ask entry false
    else (if reading.has 'v' then Report.line ("removed " ++ named name) else {}, disk.erase location)
  | .ok (.vacant _ _ _) => if absent .missing then ({}, disk) else refuse Fault.missing.reason
  | .error fault => if absent fault then ({}, disk) else refuse fault.reason

def remove (process : Process) (machine : Machine) : Work :=
  match removeLetters.read process.words.tail with
  | .error fault => (optionMisuse (ownName process) fault, machine)
  | .ok reading =>
    if reading.operands = [] then
      (if reading.has 'f' then {} else misuse (ownName process) "missing operand", machine)
    else eachName reading.operands machine (removeAt process reading)

def touch (process : Process) (machine : Machine) : Work :=
  let letters : OptionLetters := { flags := "acmh".toList, valued := "drt".toList }
  match letters.read process.words.tail with
  | .error fault => (optionMisuse (ownName process) fault, machine)
  | .ok reading =>
    if reading.operands = [] then (misuse (ownName process) "missing file operand", machine)
    else eachName reading.operands machine fun disk name =>
      let refuse (fault : Fault) : Report × Disk :=
        (complain process ("cannot touch " ++ named name ++ ": " ++ fault.reason), disk)
      match disk.find process.folder (.ofBytewise name) with
      | .ok (.occupied _ _) => ({}, disk)
      | .ok (.vacant folder last closed) =>
        if reading.has 'c' then ({}, disk)
        else if closed then refuse .missing
        else ({}, disk.put (folder ++ [last]) (.file { bytes := .empty }))
      | .error fault => refuse fault

def isInterval (text : Text) : Bool :=
  match Figure.readReal (match text.getLast? with
    | some letter => if letter ∈ "smhd".toList then text.dropLast else text
    | none => text) with
  | (_, none) => text ≠ [] && text.head? ≠ some '-'
  | _ => false

def sleep (process : Process) (machine : Machine) : Work :=
  match ({ flags := [] } : OptionLetters).read process.words.tail with
  | .error fault => (optionMisuse (ownName process) fault, machine)
  | .ok { operands := [], .. } => (misuse (ownName process) "missing operand", machine)
  | .ok { operands, .. } =>
    match operands.filter fun word => !isInterval word with
    | [] => ({}, { machine with naps := machine.naps + 1 })
    | wrong =>
      (wrong.foldl (fun report word =>
          report ++ complain process ("invalid time interval " ++ named word)) {} ++
        Report.complaint ("Try '" ++ ownName process ++ " --help' for more information.") 1, machine)

def trimmedPath (path : Text) : Text := (path.reverse.dropWhile (· = '/')).reverse

def lastName (path ending : Text) : Text :=
  let trimmed := trimmedPath path
  if trimmed = [] then (if path = [] then [] else ['/'])
  else
    let name := (trimmed.reverse.takeWhile (· ≠ '/')).reverse
    if ending ≠ [] && name ≠ ending && ending.isSuffixOf name then
      name.take (name.length - ending.length)
    else name

def baseNameLetters : OptionLetters where
  flags := "az".toList
  valued := ['s']
  longs := [("multiple", 'a'), ("suffix", 's'), ("zero", 'z')]

def baseName (process : Process) : Report :=
  match baseNameLetters.readFront process.words.tail with
  | .error fault => optionMisuse (ownName process) fault
  | .ok (options, operands) =>
    let reading : OptionReading := { options, operands }
    let ending : Text := if reading.has 'z' then ['\x00'] else ['\n']
    let shownName (path cut : Text) : Text := lastName path cut ++ ending
    let cut := reading.valueOf? 's'
    match operands with
    | [] => misuse (ownName process) "missing operand"
    | first :: others =>
      if reading.has 'a' || cut.isSome then
        Report.shown (Text.toBytes (operands.flatMap fun path => shownName path (cut.getD [])))
      else match others with
        | [] => Report.shown (Text.toBytes (shownName first []))
        | [second] => Report.shown (Text.toBytes (shownName first second))
        | _ :: third :: _ => misuse (ownName process) ("extra operand " ++ named third)

def folderOf (path : Text) : Text :=
  let trimmed := trimmedPath path
  let above := (trimmed.reverse.dropWhile (· ≠ '/')).reverse
  if trimmed = [] then (if path = [] then ['.'] else ['/'])
  else if above = [] then ['.']
  else
    let kept := trimmedPath above
    if kept = [] then ['/'] else kept

def folderName (process : Process) : Report :=
  let letters : OptionLetters := { flags := ['z'], longs := [("zero", 'z')] }
  match letters.readFront process.words.tail with
  | .error fault => optionMisuse (ownName process) fault
  | .ok (_, []) => misuse (ownName process) "missing operand"
  | .ok (options, paths) =>
    let ending := if .flag 'z' ∈ options then '\x00' else '\n'
    Report.shown (Text.toBytes (paths.flatMap fun path => folderOf path ++ [ending]))

end Tools

end PipDriver
