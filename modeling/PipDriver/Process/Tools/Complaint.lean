import PipDriver.Process.Basic
import PipDriver.Process.Options

/-!
How programs word their complaints.
-/

namespace PipDriver

namespace Tools

def shownByte (byte : Char) : Text :=
  if byte = '\'' then "\\'"
  else if byte = '\\' then "\\\\"
  else if byte = '\n' then "\\n"
  else if byte = '\t' then "\\t"
  else if byte = '\r' then "\\r"
  else if byte = '\x07' then "\\a"
  else if byte = '\x08' then "\\b"
  else if byte = '\x0b' then "\\v"
  else if byte = '\x0c' then "\\f"
  else if ' ' ≤ byte && byte ≤ '~' then [byte]
  else
    let digits := Nat.toDigits 8 byte.toNat
    '\\' :: List.replicate (3 - digits.length) '0' ++ digits

def named (text : Text) : Text := '\'' :: text.flatMap shownByte ++ ['\'']

def misuse (program text : Text) (code : Nat := 1) : Report :=
  Report.complaint (program ++ ": " ++ text ++ "\nTry '" ++ program ++
    " --help' for more information.") code

def optionText : OptionFault → Text
  | .unknown letter => "invalid option -- '" ++ letter :: ['\'']
  | .valueMissing letter => "option requires an argument -- '" ++ letter :: ['\'']
  | .unknownName text => "unrecognized option '--" ++ text ++ ['\'']
  | .ambiguous text names =>
    let known := names.flatMap fun name => " '--".toList ++ name ++ ['\'']
    "option '--" ++ text ++ "' is ambiguous; possibilities:" ++ known
  | .valueUnwanted name => "option '--" ++ name ++ "' doesn't allow an argument"
  | .valueMissingFor name => "option '--" ++ name ++ "' requires an argument"

def optionMisuse (program : Text) (fault : OptionFault) (code : Nat := 1) : Report :=
  misuse program (optionText fault) code

def ownName (process : Process) : Text := process.words.headD []

def complain (process : Process) (text : Text) (code : Nat := 1) : Report :=
  Report.complaint (ownName process ++ ": " ++ text) code

end Tools

end PipDriver
