import PipDriver.Path

/-!
Bytes as characters: a text in which every character is below 256 and stands for one byte. Programs that
work on bytes are written over such texts.
-/

namespace PipDriver.Text

def byteChar (byte : UInt8) : Char := Char.ofNat byte.toNat

def codes (text : Text) : Bytes := text.map fun character => character.toNat.toUInt8

def toBytes (text : Text) : ByteArray := ⟨text.codes.toArray⟩

def ofBytes (bytes : ByteArray) : Text := bytes.toList.map byteChar

def bytewise (text : Text) : Text := text.encoded.map byteChar

end PipDriver.Text

namespace PipDriver.Bytes

def bytewise (bytes : Bytes) : Text := bytes.map Text.byteChar

end PipDriver.Bytes

namespace PipDriver.Path

def ofBytewise (text : Text) : Path := ⟨text.codes⟩

end PipDriver.Path
