/-!
Text as a list of characters, with the few ways the other modules take it apart, and the bytes that a host knows
instead.
-/

namespace PipDriver

abbrev Text := List Char

abbrev Bytes := List UInt8

instance textOfString : Coe String (List Char) := ⟨String.toList⟩

instance lawfulEquality : LawfulBEq (List Char) := inferInstance

instance lawfulBytes : LawfulBEq (List UInt8) := inferInstance

namespace Text

/-- The stretches between separators, the empty ones included; there is always at least one. -/
def fields {α : Type} [DecidableEq α] (separator : α) : List α → List (List α)
  | [] => [[]]
  | sign :: rest =>
    if sign = separator then [] :: fields separator rest
    else match fields separator rest with
      | [] => [[sign]]
      | first :: others => (sign :: first) :: others

theorem fields_ne_nil {α : Type} [DecidableEq α] (separator : α) (text : List α) : fields separator text ≠ [] := by
  cases text with
  | nil => simp [fields]
  | cons sign rest =>
    unfold fields
    split
    · simp
    · split <;> simp

def splitOnce (marker : Text) : Text → Option (Text × Text)
  | [] => if marker = [] then some ([], []) else none
  | character :: rest =>
    match marker.isPrefixOf? (character :: rest) with
    | some after => some ([], after)
    | none => (splitOnce marker rest).map fun (before, after) => (character :: before, after)

def replaceChar (old new : Char) (text : Text) : Text :=
  text.map fun character => if character = old then new else character

def startsWith (text start : Text) : Bool := start.isPrefixOf text

def endsWith (text ending : Text) : Bool := ending.isSuffixOf text

def asciiLower (text : Text) : Text := text.map Char.toLower

def ofNat (number : Nat) : Text := Nat.toDigits 10 number

def ofInt (number : Int) : Text :=
  match number with
  | .ofNat magnitude => ofNat magnitude
  | .negSucc magnitude => '-' :: ofNat (magnitude + 1)

def utf8 (text : Text) : ByteArray := (String.ofList text).toUTF8

end Text

end PipDriver
