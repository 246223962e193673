import PipDriver.Text

/-!
Text as bytes, and bytes read as UTF-8. Strict reading refuses anything else; lenient reading puts one replacement
character for every longest stretch that could have begun a character and did not.
-/

namespace PipDriver

namespace Text

def encoded (text : Text) : Bytes := text.flatMap String.utf8EncodeChar

def ofUtf8? (bytes : ByteArray) : Option Text := (String.fromUTF8? bytes).map String.toList

end Text

instance bytesOfText : Coe (List Char) (List UInt8) := ⟨Text.encoded⟩

instance bytesOfString : Coe String (List UInt8) := ⟨fun text => Text.encoded text.toList⟩

namespace Bytes

@[match_pattern] abbrev slash : UInt8 := 47

@[match_pattern] abbrev dot : UInt8 := 46

@[simp] theorem slash_ne_dot : slash ≠ dot := by decide

@[simp] theorem dot_ne_slash : dot ≠ slash := by decide

def startsWith (bytes start : Bytes) : Bool := start.isPrefixOf bytes

def endsWith (bytes ending : Bytes) : Bool := ending.isSuffixOf bytes

def isContinuation (byte : UInt8) : Bool := 0x80 ≤ byte.toNat ∧ byte.toNat ≤ 0xBF

/-- The bounds of the second byte behind a first byte of this value, and how many bytes follow the first. -/
def followers? (value : Nat) : Option (Nat × Nat × Nat) :=
  if value < 0xC2 then none
  else if value ≤ 0xDF then some (0x80, 0xBF, 1)
  else if value ≤ 0xEF then some (if value = 0xE0 then 0xA0 else 0x80, if value = 0xED then 0x9F else 0xBF, 2)
  else if value ≤ 0xF4 then some (if value = 0xF0 then 0x90 else 0x80, if value = 0xF4 then 0x8F else 0xBF, 3)
  else none

/-- The bits of a first byte that belong to the character. -/
def leadBits (value : Nat) : Nat :=
  if value ≤ 0xDF then value - 0xC0 else if value ≤ 0xEF then value - 0xE0 else value - 0xF0

/-- The character that a first byte above ASCII begins, if it does, and how many more bytes are taken. -/
def spelled? (first : UInt8) (rest : Bytes) : Option Char × Nat :=
  match followers? first.toNat, rest with
  | some (low, high, count), second :: others =>
    if low ≤ second.toNat ∧ second.toNat ≤ high then
      let tail := (others.take (count - 1)).takeWhile isContinuation
      if tail.length = count - 1 then
        let bits := (second :: tail).foldl (fun code byte => code * 64 + (byte.toNat - 0x80)) (leadBits first.toNat)
        (some (Char.ofNat bits), count)
      else (none, tail.length + 1)
    else (none, 0)
  | _, _ => (none, 0)

inductive Stretch
  | sign (character : Char)
  | broken (bytes : Bytes)
deriving DecidableEq, Repr

/-- What bytes spell behind some that are left out. -/
def stretches : Nat → Bytes → List Stretch
  | _, [] => []
  | left + 1, _ :: rest => stretches left rest
  | 0, first :: rest =>
    if first.toNat < 0x80 then .sign (Char.ofNat first.toNat) :: stretches 0 rest
    else match spelled? first rest with
      | (some character, taken) => .sign character :: stretches taken rest
      | (none, taken) => .broken (first :: rest.take taken) :: stretches taken rest

def Stretch.shown : Stretch → Char
  | .sign character => character
  | .broken _ => '\ufffd'

/-- Bytes as a reader sees them. -/
def decoded (bytes : Bytes) : Text := (stretches 0 bytes).map Stretch.shown

end Bytes

instance textOfBytes : CoeTail (List UInt8) (List Char) := ⟨Bytes.decoded⟩

instance textsOfNames : CoeTail (List (List UInt8)) (List (List Char)) := ⟨List.map Bytes.decoded⟩

def Text.ofUtf8Lenient (bytes : ByteArray) : Text :=
  match ofUtf8? bytes with
  | some text => text
  | none => Bytes.decoded bytes.data.toList

end PipDriver
