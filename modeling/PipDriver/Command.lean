import PipDriver.Path
import PipDriver.Shell.Quote

/-!
Command lines for pip: a program with arguments, and perhaps a script that is read first.
-/

namespace PipDriver

structure Command where
  activation : Option Path := none
  program : Path
  arguments : List Text
deriving DecidableEq, Repr

namespace Command

def activationTokens (script : Path) : List Text := [".", script.text, "&&"]

def words (command : Command) : List Text := command.program.text :: command.arguments

def tokens (command : Command) : List Text :=
  (command.activation.map activationTokens).getD [] ++ command.words

def shellText (command : Command) : Text :=
  let line := Shell.line command.words
  match command.activation with
  | none => line
  | some script => ". " ++ Shell.quote script.text ++ " && " ++ line

def proxyStart : Text := "--proxy="

def maskToken (token : Text) : Text :=
  if token.startsWith proxyStart then proxyStart ++ "***" else token

/-- The tokens for a reader, without the secrets of a proxy. -/
def shown (command : Command) : Text := [' '].intercalate (command.tokens.map maskToken)

end Command

end PipDriver
