import PipDriver.Text

/-!
Lines of a text: cut at each line feed, one carriage return before it dropped, and nothing after the
last line feed when the text ends there.
-/

namespace PipDriver.Text

def dropReturn (line : Text) : Text :=
  match line.reverse with
  | '\r' :: rest => rest.reverse
  | _ => line

def lines (text : Text) : List Text :=
  let pieces := fields '\n' text
  let unfinished := pieces.getLast (fields_ne_nil '\n' text)
  let finished := pieces.dropLast.map dropReturn
  if unfinished = [] then finished else finished ++ [unfinished]

end PipDriver.Text
