import PipDriver.Text.Blank

/-!
Lists that a request gives either entry by entry or as one text with commas.
-/

namespace PipDriver

inductive ItemList
  | many (entries : List Text)
  | joined (text : Text)
deriving DecidableEq, Repr

namespace ItemList

/-- The entries that are not blank. A joined text is cut and trimmed only where it holds a comma. -/
def items : ItemList → List Text
  | .many entries => entries.filter fun entry => !entry.allBlank
  | .joined text =>
    if ',' ∈ text then ((Text.fields ',' text).map Text.trim).filter (· ≠ [])
    else if text.allBlank then []
    else [text]

def isEmpty (list : ItemList) : Bool := list.items.isEmpty

def packages (list : ItemList) : List Text := list.items.map (Text.replaceChar ';' ',')

def itemsOf (list : Option ItemList) : List Text := (list.map items).getD []

end ItemList

end PipDriver
