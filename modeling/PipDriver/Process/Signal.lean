import PipDriver.Process.Escape

/-!
Signals: their numbers, their names, and what is said of a process that one of them ended.
-/

namespace PipDriver.Signal

def names : List Text :=
  (["EXIT", "HUP", "INT", "QUIT", "ILL", "TRAP", "ABRT", "BUS", "FPE", "KILL", "USR1", "SEGV", "USR2", "PIPE",
    "ALRM", "TERM", "16"] : List Text) ++
    (["CHLD", "CONT", "STOP", "TSTP", "TTIN", "TTOU", "URG", "XCPU", "XFSZ", "VTALRM", "PROF",
      "WINCH", "IO", "PWR", "SYS"] : List Text)

def count : Nat := 65

def name (signal : Nat) : Text :=
  match names[signal]? with
  | some text => text
  | none =>
    if signal < 34 then Text.ofNat signal
    else if signal = 34 then "RTMIN"
    else if signal < 50 then "RTMIN+" ++ Text.ofNat (signal - 34)
    else if signal < 64 then "RTMAX-" ++ Text.ofNat (64 - signal)
    else "RTMAX"

def isNumber (text : Text) : Bool := text ≠ [] && text.all Char.isDigit

def read? (text : Text) : Option Nat :=
  if isNumber text then
    let number := Escape.digitsValue 10 text
    if number < count then some number else none
  else
    let upper := text.map Char.toUpper
    (List.range count).find? fun signal => name signal = upper

def describe? (signal : Nat) : Option Text :=
  match signal with
  | 1 => some "Hangup"
  | 2 => none
  | 3 => some "Quit"
  | 4 => some "Illegal instruction"
  | 5 => some "Trace/breakpoint trap"
  | 6 => some "Aborted"
  | 7 => some "Bus error"
  | 8 => some "Floating point exception"
  | 9 => some "Killed"
  | 10 => some "User defined signal 1"
  | 11 => some "Segmentation fault"
  | 12 => some "User defined signal 2"
  | 13 => none
  | 14 => some "Alarm clock"
  | 15 => some "Terminated"
  | 16 => some "Stack fault"
  | 24 => some "CPU time limit exceeded"
  | 25 => some "File size limit exceeded"
  | 26 => some "Virtual timer expired"
  | 27 => some "Profiling timer expired"
  | 29 => some "I/O possible"
  | 30 => some "Power failure"
  | 31 => some "Bad system call"
  | number =>
    if 34 ≤ number then some ("Real-time signal " ++ Text.ofNat (number - 34))
    else some ("Unknown signal " ++ Text.ofNat number)

def isIdle (signal : Nat) : Bool := signal ∈ [0, 17, 18, 23, 28]

def code (signal : Nat) : Nat := 128 + signal

end PipDriver.Signal
