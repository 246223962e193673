import PipDriver.Disk.Find
import PipDriver.Process.Escape
import PipDriver.Process.Tools.Complaint

/-!
The programs of the host that change who owns a file or who runs a program. Nobody may become anybody else.
-/

namespace PipDriver

namespace Tools

def highestAccount : Nat := 4294967294

def accountNumber? (text : Text) : Option Nat :=
  let digits := match text.dropWhile fun character => character ∈ " \t\n\x0b\x0c\x0d".toList with
    | '+' :: rest => rest
    | rest => rest
  let number := Escape.digitsValue 10 digits
  if digits ≠ [] && digits.all Char.isDigit && number ≤ highestAccount then some number else none

def numberFor? (known : List (Text × Nat)) (name : Text) : Option Nat :=
  (known.lookup name).or (accountNumber? name)

structure Owner where
  user : Option Nat
  group : Option Nat

def accountNumbers (machine : Machine) : List (Text × Nat) :=
  machine.accounts.map fun account => (account.name, account.number)

def ownerOf (machine : Machine) (user : Text) (group : Option Text) : Except Text Owner :=
  let accounts := accountNumbers machine
  let userNumber := numberFor? accounts user
  if user ≠ [] && group = some [] && (accounts.lookup user).isNone then .error "invalid spec"
  else if user ≠ [] && userNumber.isNone then .error "invalid user"
  else match group with
    | none => .ok { user := userNumber, group := none }
    | some [] => .ok { user := userNumber, group := userNumber }
    | some name =>
      match numberFor? machine.groups name with
      | some number => .ok { user := userNumber, group := some number }
      | none => .error "invalid group"

def readOwner (machine : Machine) (text : Text) : Except Text (Owner × Bool) :=
  match Text.splitOnce [':'] text with
  | some (user, group) => (ownerOf machine user (some group)).map (·, false)
  | none =>
    match ownerOf machine text none, Text.splitOnce ['.'] text with
    | .ok owner, _ => .ok (owner, false)
    | .error fault, none => .error fault
    | .error fault, some (user, group) =>
      match ownerOf machine user (some group) with
      | .ok owner => .ok (owner, true)
      | .error _ => .error fault

def Owner.isKept (owner : Owner) : Bool := owner.user.all (· = 0) && owner.group.all (· = 0)

def changeOwnerLetters : OptionLetters where
  flags := "cfhvRHLP".toList
  valued := ['φ', 'ρ']
  longs :=
    [("recursive", 'R'), ("changes", 'c'), ("dereference", 'δ'), ("from", 'φ'), ("no-dereference", 'h'),
     ("no-preserve-root", 'ν'), ("preserve-root", 'π'), ("quiet", 'f'), ("silent", 'f'), ("reference", 'ρ'),
     ("verbose", 'v'), ("help", 'η'), ("version", 'ε')]
  closing := ['η', 'ε']

def giveTo (owner : Owner) (quiet : Bool) (files : List Text) (process : Process) (machine : Machine) : Report :=
  let refuse (reason : Text) : Report := if quiet then { code := 1 } else complain process reason
  files.foldl (fun report file =>
    match machine.disk.entryAt process.folder (.ofBytewise file) with
    | .error fault => report ++ refuse ("cannot access " ++ named file ++ ": " ++ fault.reason)
    | .ok _ =>
      if owner.isKept then report
      else
        let part : Text := if owner.user.isSome then "ownership" else "group"
        report ++ refuse ("changing " ++ part ++ " of " ++ named file ++ ": Operation not permitted")) {}

def changeOwner (process : Process) (machine : Machine) : Report :=
  let program := ownName process
  match changeOwnerLetters.read process.words.tail with
  | .error fault => optionMisuse program fault
  | .ok reading =>
    let quiet := reading.has 'f'
    let before? := (reading.valueOf? 'φ').bind fun text =>
      match readOwner machine text with
      | .error fault => some (fault ++ ": " ++ named text)
      | .ok _ => none
    if reading.has 'η' || reading.has 'ε' then {}
    else match before?, reading.valueOf? 'ρ', reading.operands with
      | some fault, _, _ => complain process fault
      | none, _, [] => misuse program "missing operand"
      | none, some other, files =>
        match machine.disk.entryAt process.folder (.ofBytewise other) with
        | .error fault => complain process ("failed to get attributes of " ++ named other ++ ": " ++ fault.reason)
        | .ok _ => giveTo ⟨some 0, some 0⟩ quiet files process machine
      | none, none, [only] => misuse program ("missing operand after " ++ named only)
      | none, none, text :: files =>
        match readOwner machine text with
        | .error fault => complain process (fault ++ ": " ++ named text)
        | .ok (owner, old) =>
          let warning : Report :=
            if old then { complain process ("warning: '.' should be ':': " ++ named text) with code := 0 } else {}
          warning ++ giveTo owner quiet files process machine

def switchLetters : OptionLetters where
  flags := "flmpPT".toList
  valued := "cgGsuw".toList
  longs :=
    [("command", 'c'), ("session-command", 'c'), ("fast", 'f'), ("login", 'l'),
     ("preserve-environment", 'p'), ("pty", 'P'), ("no-pty", 'T'), ("shell", 's'), ("group", 'g'),
     ("supp-group", 'G'), ("user", 'u'), ("whitelist-environment", 'w'), ("help", 'h'), ("version", 'V')]
  closing := ['h', 'V']

def switchUsage : List String :=
  ["", "Usage:", " su [options] [-] [<user> [<argument>...]]", "",
   "Change the effective user ID and group ID to that of <user>.",
   "A mere - implies -l.  If <user> is not given, root is assumed.", "", "Options:",
   " -m, -p, --preserve-environment      do not reset environment variables",
   " -w, --whitelist-environment <list>  don't reset specified variables", "",
   " -g, --group <group>             specify the primary group",
   " -G, --supp-group <group>        specify a supplemental group", "",
   " -, -l, --login                  make the shell a login shell",
   " -c, --command <command>         pass a single command to the shell with -c",
   " --session-command <command>     pass a single command to the shell with -c",
   "                                   and do not create a new session",
   " -f, --fast                      pass -f to the shell (for csh or tcsh)",
   " -s, --shell <shell>             run <shell> if /etc/shells allows it",
   " -P, --pty                       create a new pseudo-terminal",
   " -T, --no-pty                    do not create a new pseudo-terminal (bad security!)", "",
   " -h, --help                      display this help",
   " -V, --version                   display version", "", "For more details see su(1)."]

def strangeGroup? (reading : OptionReading) (machine : Machine) : Option Text :=
  reading.options.findSome? fun
    | .value letter name =>
      if letter ∈ ['g', 'G'] && (machine.groups.lookup name).isNone then some name else none
    | .flag _ => none

/-- Whom the operands name: a single dash names nobody, and without a name it is the administrator. -/
def chosenUser (reading : OptionReading) : Text := (reading.operands.filter (· ≠ ['-'])).headD "root"

def switchUser (process : Process) (machine : Machine) : Report :=
  match switchLetters.read process.words.tail with
  | .error fault => optionMisuse "su" fault
  | .ok reading =>
    let user := chosenUser reading
    let keeps := reading.has 'm' || reading.has 'p'
    let logsIn := reading.has 'l' || reading.operands.head? = some ['-']
    let warning : Report :=
      if keeps && logsIn then
        Report.complaint "su: ignoring --preserve-environment, it's mutually exclusive with --login" 0
      else {}
    match strangeGroup? reading machine with
    | some group => Report.complaint ("su: group " ++ group ++ " does not exist") 1
    | none =>
      if reading.has 'h' then Report.shown (Text.toBytes (switchUsage.flatMap fun line => line.toList ++ ['\n']))
      else if reading.has 'V' then Report.line "su from util-linux 2.41"
      else if (reading.valueOf? 'u').isSome then Report.complaint "Try 'su --help' for more information." 1
      else if machine.accounts.any fun account => account.name = user then
        warning ++ Report.complaint "su: cannot set groups: Operation not permitted" 1
      else
        warning ++ Report.complaint ("su: user " ++ user ++
          " does not exist or the user entry does not contain all the required fields") 1

end Tools

end PipDriver
