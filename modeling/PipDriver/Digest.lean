import PipDriver.Text

/-!
SHA-256 digests of bytes, written as lower-case hexadecimal after the name of the function.
-/

namespace PipDriver.Digest

structure Words where
  a : UInt32
  b : UInt32
  c : UInt32
  d : UInt32
  e : UInt32
  f : UInt32
  g : UInt32
  h : UInt32

def initialWords : Words :=
  ⟨0x6a09e667, 0xbb67ae85, 0x3c6ef372, 0xa54ff53a,
   0x510e527f, 0x9b05688c, 0x1f83d9ab, 0x5be0cd19⟩

def roundConstants : Array UInt32 :=
  #[0x428a2f98, 0x71374491, 0xb5c0fbcf, 0xe9b5dba5, 0x3956c25b, 0x59f111f1, 0x923f82a4, 0xab1c5ed5,
   0xd807aa98, 0x12835b01, 0x243185be, 0x550c7dc3, 0x72be5d74, 0x80deb1fe, 0x9bdc06a7, 0xc19bf174,
   0xe49b69c1, 0xefbe4786, 0x0fc19dc6, 0x240ca1cc, 0x2de92c6f, 0x4a7484aa, 0x5cb0a9dc, 0x76f988da,
   0x983e5152, 0xa831c66d, 0xb00327c8, 0xbf597fc7, 0xc6e00bf3, 0xd5a79147, 0x06ca6351, 0x14292967,
   0x27b70a85, 0x2e1b2138, 0x4d2c6dfc, 0x53380d13, 0x650a7354, 0x766a0abb, 0x81c2c92e, 0x92722c85,
   0xa2bfe8a1, 0xa81a664b, 0xc24b8b70, 0xc76c51a3, 0xd192e819, 0xd6990624, 0xf40e3585, 0x106aa070,
   0x19a4c116, 0x1e376c08, 0x2748774c, 0x34b0bcb5, 0x391c0cb3, 0x4ed8aa4a, 0x5b9cca4f, 0x682e6ff3,
   0x748f82ee, 0x78a5636f, 0x84c87814, 0x8cc70208, 0x90befffa, 0xa4506ceb, 0xbef9a3f7, 0xc67178f2]

def rotate (word : UInt32) (amount : UInt32) : UInt32 :=
  (word >>> amount) ||| (word <<< (32 - amount))

def byteAt (bytes : ByteArray) (position : Nat) : UInt32 :=
  if bound : position < bytes.size then bytes[position].toUInt32 else 0

def wordAt (bytes : ByteArray) (position : Nat) : UInt32 :=
  (byteAt bytes position <<< 24) ||| (byteAt bytes (position + 1) <<< 16) |||
    (byteAt bytes (position + 2) <<< 8) ||| byteAt bytes (position + 3)

def nextWord (schedule : Array UInt32) : UInt32 :=
  let back (distance : Nat) : UInt32 := schedule.getD (schedule.size - distance) 0
  let near := back 2
  let far := back 15
  back 16 + (rotate far 7 ^^^ rotate far 18 ^^^ (far >>> 3)) + back 7 +
    (rotate near 17 ^^^ rotate near 19 ^^^ (near >>> 10))

def scheduleOf (bytes : ByteArray) (start : Nat) : Array UInt32 :=
  let given := (List.range 16).foldl
    (fun schedule index => schedule.push (wordAt bytes (start + 4 * index))) (Array.mkEmpty 64)
  (List.range 48).foldl (fun schedule _ => schedule.push (nextWord schedule)) given

def mixRound (schedule : Array UInt32) (words : Words) (index : Nat) : Words :=
  let ⟨a, b, c, d, e, f, g, h⟩ := words
  let choice := (e &&& f) ^^^ ((~~~e) &&& g)
  let majority := (a &&& b) ^^^ (a &&& c) ^^^ (b &&& c)
  let first := h + (rotate e 6 ^^^ rotate e 11 ^^^ rotate e 25) + choice +
    roundConstants.getD index 0 + schedule.getD index 0
  let second := (rotate a 2 ^^^ rotate a 13 ^^^ rotate a 22) + majority
  ⟨first + second, a, b, c, d + first, e, f, g⟩

def rounds : List Nat := List.range 64

def mixBlock (bytes : ByteArray) (words : Words) (start : Nat) : Words :=
  let mixed := rounds.foldl (mixRound (scheduleOf bytes start)) words
  ⟨words.a + mixed.a, words.b + mixed.b, words.c + mixed.c, words.d + mixed.d,
   words.e + mixed.e, words.f + mixed.f, words.g + mixed.g, words.h + mixed.h⟩

def padding (size : Nat) : List UInt8 :=
  let zeros := (119 - size % 64) % 64
  let length := (List.range 8).map fun index => ((size * 8) >>> (8 * (7 - index))).toUInt8
  0x80 :: List.replicate zeros 0 ++ length

def padded (bytes : ByteArray) : ByteArray :=
  (padding bytes.size).foldl ByteArray.push bytes

def hexDigits (count : Nat) (number : Nat) : Text :=
  ((List.range count).map fun index => Nat.digitChar ((number >>> (4 * index)) % 16)).reverse

def wordsOf (bytes : ByteArray) : Words :=
  let whole := padded bytes
  (List.range (whole.size / 64)).foldl
    (fun words block => mixBlock whole words (64 * block)) initialWords

def ofBytes (bytes : ByteArray) : Text :=
  let ⟨a, b, c, d, e, f, g, h⟩ := wordsOf bytes
  ("sha256:" : Text) ++ [a, b, c, d, e, f, g, h].flatMap fun word => hexDigits 8 word.toNat

end PipDriver.Digest
