import PipDriver.Path
import PipDriver.Proofs.Fields

/-!
The bytes that spell a text, and the text that bytes spell. A text is read back from its bytes; bytes that spell no
text are not.
-/

namespace PipDriver

namespace Bytes

theorem toNat_ofNat {number : Nat} (small : number < 256) : (UInt8.ofNat number).toNat = number := by
  rw [UInt8.toNat_ofNat']
  exact Nat.mod_eq_of_lt small

theorem isContinuation_ofNat {number : Nat} (least : 128 ≤ number) (most : number ≤ 191) :
    isContinuation (UInt8.ofNat number) = true := by
  rw [isContinuation, decide_eq_true_iff, toNat_ofNat (by omega)]
  exact ⟨least, most⟩

section

variable {number : Nat} (rest : Bytes)

theorem spelled?_two (least : 127 < number) (within : number ≤ 2047) :
    spelled? (UInt8.ofNat (number / 64 % 32 + 192)) (UInt8.ofNat (number % 64 + 128) :: rest) =
      (some (Char.ofNat number), 1) := by
  have first := toNat_ofNat (show number / 64 % 32 + 192 < 256 by omega)
  have second := toNat_ofNat (show number % 64 + 128 < 256 by omega)
  have follows : followers? (number / 64 % 32 + 192) = some (0x80, 0xBF, 1) := by
    rw [followers?, if_neg (by omega), if_pos (by omega)]
  have bits : leadBits (number / 64 % 32 + 192) = number / 64 := by
    rw [leadBits, if_pos (by omega)]
    omega
  simp only [spelled?, first, follows, second]
  rw [if_pos (by omega)]
  simp only [Nat.sub_self, List.take_zero, List.takeWhile_nil, List.length_nil, if_true, List.foldl_cons,
    List.foldl_nil, bits, second]
  rw [show number / 64 * 64 + (number % 64 + 128 - 128) = number by omega]

/-- The bounds for the second byte depend on the first, so that no character is spelled in more bytes than it needs. -/
theorem spelled?_three (least : 2047 < number) (within : number ≤ 65535) (valid : number < 55296 ∨ 57343 < number) :
    spelled? (UInt8.ofNat (number / 4096 % 16 + 224))
      (UInt8.ofNat (number / 64 % 64 + 128) :: UInt8.ofNat (number % 64 + 128) :: rest) =
        (some (Char.ofNat number), 2) := by
  have first := toNat_ofNat (show number / 4096 % 16 + 224 < 256 by omega)
  have second := toNat_ofNat (show number / 64 % 64 + 128 < 256 by omega)
  have third := toNat_ofNat (show number % 64 + 128 < 256 by omega)
  have goes : isContinuation (UInt8.ofNat (number % 64 + 128)) = true := isContinuation_ofNat (by omega) (by omega)
  have follows : followers? (number / 4096 % 16 + 224) = some (if number / 4096 % 16 + 224 = 224 then 160 else 128,
      if number / 4096 % 16 + 224 = 237 then 159 else 191, 2) := by
    rw [followers?, if_neg (by omega), if_neg (by omega), if_pos (by omega)]
  have bits : leadBits (number / 4096 % 16 + 224) = number / 4096 := by
    rw [leadBits, if_neg (by omega), if_pos (by omega)]
    omega
  simp only [spelled?, first, follows, second]
  rw [if_pos (by constructor <;> split <;> omega)]
  simp only [List.take_succ_cons, List.take_zero, List.takeWhile_cons, goes, if_true, List.takeWhile_nil,
    List.length_cons, List.length_nil, Nat.reduceAdd, Nat.reduceSub, List.foldl_cons, List.foldl_nil, bits, second, third]
  rw [show (number / 4096 * 64 + (number / 64 % 64 + 128 - 128)) * 64 + (number % 64 + 128 - 128) = number by omega]

theorem spelled?_four (least : 65535 < number) (valid : number < 1114112) :
    spelled? (UInt8.ofNat (number / 262144 % 8 + 240)) (UInt8.ofNat (number / 4096 % 64 + 128) ::
      UInt8.ofNat (number / 64 % 64 + 128) :: UInt8.ofNat (number % 64 + 128) :: rest) =
        (some (Char.ofNat number), 3) := by
  have first := toNat_ofNat (show number / 262144 % 8 + 240 < 256 by omega)
  have second := toNat_ofNat (show number / 4096 % 64 + 128 < 256 by omega)
  have third := toNat_ofNat (show number / 64 % 64 + 128 < 256 by omega)
  have fourth := toNat_ofNat (show number % 64 + 128 < 256 by omega)
  have goes : isContinuation (UInt8.ofNat (number / 64 % 64 + 128)) = true :=
    isContinuation_ofNat (by omega) (by omega)
  have ends : isContinuation (UInt8.ofNat (number % 64 + 128)) = true := isContinuation_ofNat (by omega) (by omega)
  have follows : followers? (number / 262144 % 8 + 240) = some (if number / 262144 % 8 + 240 = 240 then 144 else 128,
      if number / 262144 % 8 + 240 = 244 then 143 else 191, 3) := by
    rw [followers?, if_neg (by omega), if_neg (by omega), if_neg (by omega), if_pos (by omega)]
  have bits : leadBits (number / 262144 % 8 + 240) = number / 262144 := by
    rw [leadBits, if_neg (by omega), if_neg (by omega)]
    omega
  simp only [spelled?, first, follows, second]
  rw [if_pos (by constructor <;> split <;> omega)]
  simp only [List.take_succ_cons, List.take_zero, List.takeWhile_cons, goes, ends, if_true, List.takeWhile_nil,
    List.length_cons, List.length_nil, Nat.reduceAdd, Nat.reduceSub, List.foldl_cons, List.foldl_nil, bits, second, third,
    fourth]
  rw [show ((number / 262144 * 64 + (number / 4096 % 64 + 128 - 128)) * 64 + (number / 64 % 64 + 128 - 128)) * 64 +
    (number % 64 + 128 - 128) = number by omega]

end

theorem stretches_of_spelled {first : UInt8} {rest : Bytes} {character : Char} {taken : Nat} (high : 128 ≤ first.toNat)
    (spells : spelled? first rest = (some character, taken)) :
    stretches 0 (first :: rest) = .sign character :: stretches taken rest := by
  rw [stretches, if_neg (by omega), spells]

theorem high_ofNat {number : Nat} (low : 128 ≤ number) (small : number < 256) : 128 ≤ (UInt8.ofNat number).toNat := by
  rwa [toNat_ofNat small]

/-- The bytes of a character are read as that character, whatever follows. -/
theorem stretches_character (character : Char) (rest : Bytes) :
    stretches 0 (String.utf8EncodeChar character ++ rest) = .sign character :: stretches 0 rest := by
  have code : Char.ofNat character.val.toNat = character := Char.ofNat_toNat character
  have valid : character.val.toNat < 55296 ∨ 57343 < character.val.toNat ∧ character.val.toNat < 1114112 :=
    character.valid
  unfold String.utf8EncodeChar
  simp only
  generalize character.val.toNat = number at valid code ⊢
  rw [← code]
  split
  case isTrue one =>
    have small : (UInt8.ofNat number).toNat = number := toNat_ofNat (by omega)
    rw [List.singleton_append, stretches, small, if_pos (by omega)]
  case isFalse one =>
    split
    case isTrue two =>
      exact stretches_of_spelled (high_ofNat (by omega) (by omega)) (spelled?_two rest (by omega) two)
    case isFalse two =>
      split
      case isTrue three =>
        exact stretches_of_spelled (high_ofNat (by omega) (by omega))
          (spelled?_three rest (by omega) three (by omega))
      case isFalse three =>
        exact stretches_of_spelled (high_ofNat (by omega) (by omega)) (spelled?_four rest (by omega) (by omega))

theorem stretches_encoded (text : Text) (rest : Bytes) :
    stretches 0 (text.encoded ++ rest) = text.map .sign ++ stretches 0 rest := by
  induction text with
  | nil => rfl
  | cons character others ih =>
      change stretches 0 (String.utf8EncodeChar character ++ Text.encoded others ++ rest) = _
      rw [List.append_assoc, stretches_character, ih]
      rfl

/-- A text is read back from its bytes. -/
@[simp] theorem decoded_encoded (text : Text) : decoded text.encoded = text := by
  have whole := stretches_encoded text []
  rw [List.append_nil] at whole
  rw [decoded, whole, List.map_append, List.map_map]
  simp [stretches, Function.comp_def, Stretch.shown]

theorem stretches_ne_nil (first : UInt8) (rest : Bytes) : stretches 0 (first :: rest) ≠ [] := by
  rw [stretches]
  split
  · exact List.cons_ne_nil _ _
  · split <;> exact List.cons_ne_nil _ _

@[simp] theorem decoded_eq_nil_iff {bytes : Bytes} : decoded bytes = [] ↔ bytes = [] := by
  cases bytes with
  | nil => exact iff_of_true rfl rfl
  | cons first rest => exact iff_of_false (mt List.map_eq_nil_iff.mp (stretches_ne_nil first rest)) (List.cons_ne_nil _ _)

end Bytes

namespace Text

theorem encoded_injective : Function.Injective encoded :=
  Function.LeftInverse.injective Bytes.decoded_encoded

@[simp] theorem encoded_append (first second : Text) : (first ++ second).encoded = first.encoded ++ second.encoded :=
  List.flatMap_append

theorem encodeChar_of_ascii {sign : Char} (ascii : sign.toNat < 128) :
    String.utf8EncodeChar sign = [UInt8.ofNat sign.toNat] := by
  have small : sign.val.toNat ≤ 127 := Nat.le_of_lt_succ ascii
  unfold String.utf8EncodeChar
  simp only [small, if_true]
  rfl

theorem high_of_mem_encodeChar {character : Char} (high : 128 ≤ character.toNat) {byte : UInt8}
    (member : byte ∈ String.utf8EncodeChar character) : 128 ≤ byte.toNat := by
  have large : ¬character.val.toNat ≤ 127 := Nat.not_le.mpr high
  unfold String.utf8EncodeChar at member
  simp only [large, if_false] at member
  split at member
  · simp only [List.mem_cons, List.not_mem_nil, or_false] at member
    rcases member with rfl | rfl <;> simp only [UInt8.toNat_ofNat'] <;> omega
  · split at member
    · simp only [List.mem_cons, List.not_mem_nil, or_false] at member
      rcases member with rfl | rfl | rfl <;> simp only [UInt8.toNat_ofNat'] <;> omega
    · simp only [List.mem_cons, List.not_mem_nil, or_false] at member
      rcases member with rfl | rfl | rfl | rfl <;> simp only [UInt8.toNat_ofNat'] <;> omega

theorem encodeChar_ne_nil (character : Char) : String.utf8EncodeChar character ≠ [] := by
  unfold String.utf8EncodeChar
  simp only
  split
  · exact List.cons_ne_nil _ _
  · split
    · exact List.cons_ne_nil _ _
    · split <;> exact List.cons_ne_nil _ _

theorem encoded_cons {sign : Char} (ascii : sign.toNat < 128) (rest : Text) :
    encoded (sign :: rest) = UInt8.ofNat sign.toNat :: rest.encoded := by
  rw [encoded, List.flatMap_cons, encodeChar_of_ascii ascii]
  rfl

theorem encoded_of_ascii {text : Text} (ascii : ∀ sign ∈ text, sign.toNat < 128) :
    text.encoded = text.map fun sign => UInt8.ofNat sign.toNat := by
  induction text with
  | nil => rfl
  | cons sign rest ih =>
      rw [List.forall_mem_cons] at ascii
      rw [encoded_cons ascii.1, ih ascii.2, List.map_cons]

@[simp] theorem encoded_eq_nil_iff {text : Text} : text.encoded = [] ↔ text = [] := by
  rw [encoded, List.flatMap_eq_nil_iff]
  constructor
  · intro none
    by_contra given
    obtain ⟨character, others, rfl⟩ := List.exists_cons_of_ne_nil given
    exact encodeChar_ne_nil character (none character List.mem_cons_self)
  · rintro rfl
    simp

section

variable {sign : Char} (ascii : sign.toNat < 128)
include ascii

/-- A sign of ASCII is found among the bytes just where it stands in the text. -/
theorem mem_encoded_iff (text : Text) : UInt8.ofNat sign.toNat ∈ text.encoded ↔ sign ∈ text := by
  have code : (UInt8.ofNat sign.toNat).toNat = sign.toNat := Bytes.toNat_ofNat (by omega)
  rw [encoded, List.mem_flatMap]
  constructor
  · rintro ⟨character, member, inside⟩
    by_cases low : character.toNat < 128
    · rw [encodeChar_of_ascii low, List.mem_singleton, ← UInt8.toNat_inj, code, Bytes.toNat_ofNat (by omega)] at inside
      rwa [Char.toNat_inj.mp inside]
    · have high := high_of_mem_encodeChar (by omega) inside
      omega
  · intro member
    exact ⟨sign, member, by rw [encodeChar_of_ascii ascii]; exact List.mem_singleton_self _⟩

theorem head?_encoded_iff (text : Text) : text.encoded.head? = some (UInt8.ofNat sign.toNat) ↔ text.head? = some sign := by
  cases text with
  | nil => simp [encoded]
  | cons character rest =>
      obtain ⟨byte, more, spelled⟩ := List.exists_cons_of_ne_nil (encodeChar_ne_nil character)
      have code : encoded [character] = byte :: more := by rw [encoded, List.flatMap_singleton, spelled]
      rw [← List.singleton_append, encoded_append, code, List.cons_append, List.head?_cons, List.singleton_append,
        List.head?_cons, Option.some.injEq, Option.some.injEq]
      constructor
      · rintro rfl
        have member : sign ∈ [character] := (mem_encoded_iff ascii [character]).mp (by rw [code]; exact List.mem_cons_self)
        exact (List.mem_singleton.mp member).symm
      · rintro rfl
        rw [encodeChar_of_ascii ascii] at spelled
        exact (List.cons.inj spelled).1.symm

theorem fields_encoded (text : Text) :
    fields (UInt8.ofNat sign.toNat) text.encoded = (fields sign text).map encoded := by
  have code : (UInt8.ofNat sign.toNat).toNat = sign.toNat := Bytes.toNat_ofNat (by omega)
  induction text with
  | nil => rfl
  | cons character rest ih =>
      by_cases same : character = sign
      · subst same
        rw [encoded_cons ascii, fields, if_pos rfl, fields, if_pos rfl, ih]
        rfl
      · have apart : UInt8.ofNat sign.toNat ∉ String.utf8EncodeChar character := by
          intro inside
          have member : sign ∈ [character] :=
            (mem_encoded_iff ascii [character]).mp (by rwa [encoded, List.flatMap_singleton])
          exact same (List.mem_singleton.mp member).symm
        obtain ⟨first, others, parted⟩ := List.exists_cons_of_ne_nil (fields_ne_nil sign rest)
        rw [show encoded (character :: rest) = String.utf8EncodeChar character ++ encoded rest from rfl,
          fields_append_whole apart (ih.trans (congrArg _ parted)), fields, if_neg same, parted]
        rfl

end

theorem slash_mem_encoded_iff (text : Text) : Bytes.slash ∈ text.encoded ↔ '/' ∈ text :=
  mem_encoded_iff (show '/'.toNat < 128 by decide) text

theorem fields_slash_encoded (text : Text) : fields Bytes.slash text.encoded = (fields '/' text).map encoded :=
  fields_encoded (show '/'.toNat < 128 by decide) text

end Text

namespace Path

/-- Whether the bytes of a path spell a text, so that a reader sees the path itself. -/
def IsText (path : Path) : Prop := ∃ text, path = mk text

@[simp] theorem text_mk (text : Text) : (mk text).text = text := Bytes.decoded_encoded text

theorem mk_text_iff {path : Path} : mk path.text = path ↔ path.IsText := by
  constructor
  · exact fun same => ⟨path.text, same.symm⟩
  · rintro ⟨text, rfl⟩
    rw [text_mk]

instance decidableIsText (path : Path) : Decidable path.IsText := decidable_of_iff _ mk_text_iff

theorem IsText.eq_of_text {path other : Path} (is : path.IsText) (also : other.IsText) (same : path.text = other.text) :
    path = other := by
  rw [← mk_text_iff.mpr is, same, mk_text_iff.mpr also]

theorem eq_of_texts {path other : Option Path} (is : ∀ given ∈ path, given.IsText) (also : ∀ given ∈ other, given.IsText)
    (same : path.map text = other.map text) : path = other := by
  cases path with
  | none => exact (Option.map_eq_none_iff.mp same.symm).symm
  | some given =>
      obtain ⟨found, rfl, seen⟩ := Option.map_eq_some_iff.mp same.symm
      rw [(is given rfl).eq_of_text (also found rfl) seen.symm]

end Path

end PipDriver
