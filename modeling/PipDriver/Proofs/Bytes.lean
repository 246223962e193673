import PipDriver.Proofs.Quoting
import PipDriver.Text.Bytewise

/-!
Text as the bytes that spell it. ASCII stays as it is, and no other character has an ASCII byte.
-/

namespace PipDriver

namespace Text

def charBytes (character : Char) : Text := (String.utf8EncodeChar character).map byteChar

theorem bytewise_eq (text : Text) : text.bytewise = text.flatMap charBytes := List.map_flatMap

@[simp] theorem bytewise_append (first second : Text) : bytewise (first ++ second) = first.bytewise ++ second.bytewise := by
  simp [bytewise_eq]

theorem toNat_byteChar (byte : UInt8) : (byteChar byte).toNat = byte.toNat := by
  have bound := byte.toNat_lt
  have valid : byte.toNat.isValidChar := .inl (by omega)
  rw [byteChar, Char.ofNat, dif_pos valid]
  rfl

theorem byteChar_injective : Function.Injective byteChar := by
  intro first second same
  rw [← UInt8.toNat_inj, ← toNat_byteChar, same, toNat_byteChar]

theorem charBytes_of_ascii {character : Char} (ascii : character.toNat < 128) : charBytes character = [character] := by
  rw [charBytes, encodeChar_of_ascii ascii, List.map_singleton, List.singleton_inj]
  apply Char.toNat_inj.mp
  rw [toNat_byteChar, Bytes.toNat_ofNat (by omega)]

theorem high_of_mem_charBytes {character byte : Char} (high : 128 ≤ character.toNat) (member : byte ∈ charBytes character) :
    128 ≤ byte.toNat := by
  obtain ⟨code, within, rfl⟩ := List.mem_map.mp member
  rw [toNat_byteChar]
  exact high_of_mem_encodeChar high within

theorem charBytes_ne_nil (character : Char) : charBytes character ≠ [] :=
  mt List.map_eq_nil_iff.mp (encodeChar_ne_nil character)

theorem bytewise_cons {character : Char} (ascii : character.toNat < 128) (rest : Text) :
    bytewise (character :: rest) = character :: rest.bytewise := by
  rw [bytewise_eq, bytewise_eq, List.flatMap_cons, charBytes_of_ascii ascii]
  rfl

theorem bytewise_of_ascii {text : Text} (ascii : ∀ character ∈ text, character.toNat < 128) : text.bytewise = text := by
  induction text with
  | nil => simp [bytewise_eq]
  | cons character others ih =>
      rw [bytewise_cons (ascii character (by simp)), ih fun other member => ascii other (by simp [member])]

end Text

namespace Path

theorem bytewise_text_iff {path : Path} : path.text.bytewise = path.bytes.bytewise ↔ path.IsText := by
  constructor
  · intro same
    exact ⟨path.text, congrArg ofBytes ((List.map_injective_iff.mpr Text.byteChar_injective same).symm)⟩
  · rintro ⟨text, rfl⟩
    rw [text_mk]
    rfl

end Path

namespace Shell

open Text

theorem ascii_of_isNeutral {character : Char} (neutral : isNeutral character = true) : character.toNat < 128 := by
  simp only [isNeutral, Bool.or_eq_true, decide_eq_true_eq] at neutral
  rcases neutral with alphanumeric | sign
  · have spelled : character.isAlphanum =
        (decide ('A'.val ≤ character.val ∧ character.val ≤ 'Z'.val) ||
          (decide ('a'.val ≤ character.val) && decide (character.val ≤ 'z'.val)) || character.isDigit) := rfl
    simp only [spelled, Bool.or_eq_true, Bool.and_eq_true, decide_eq_true_eq, UInt32.le_iff_toNat_le,
      Char.isDigit_iff_toNat] at alphanumeric
    have value : character.toNat = character.val.toNat := rfl
    have bounds : 'Z'.val.toNat < 128 ∧ 'z'.val.toNat < 128 ∧ '9'.toNat < 128 := by decide
    omega
  · have all : ∀ sign ∈ "_-./=:,+@%".toList, sign.toNat < 128 := forall_of_all (by decide)
    exact all character sign

theorem isPlain_bytewise (word : Text) : isPlain word.bytewise = isPlain word := by
  by_cases plain : isPlain word = true
  · rw [bytewise_of_ascii fun character member =>
      ascii_of_isNeutral (List.all_eq_true.mp (isPlain_iff.mp plain).2 character member)]
  · rw [Bool.eq_false_iff.mpr plain, Bool.eq_false_iff]
    intro plainBytes
    obtain ⟨some_, neutral⟩ := isPlain_iff.mp plainBytes
    rw [bytewise_eq] at some_ neutral
    have nonempty : word ≠ [] := by
      rintro rfl
      exact some_ rfl
    refine plain (isPlain_iff.mpr ⟨nonempty, List.all_eq_true.mpr ?_⟩)
    intro character member
    have inside : ∀ byte ∈ charBytes character, isNeutral byte = true := fun byte within =>
      List.all_eq_true.mp neutral byte (List.mem_flatMap.mpr ⟨character, member, within⟩)
    by_cases ascii : character.toNat < 128
    · exact inside character (by simp [charBytes_of_ascii ascii])
    · obtain ⟨byte, others, bytes⟩ := List.exists_cons_of_ne_nil (charBytes_ne_nil character)
      have within : byte ∈ charBytes character := by simp [bytes]
      have low := ascii_of_isNeutral (inside byte within)
      have high := high_of_mem_charBytes (by omega) within
      omega

theorem quoteChar_bytewise (character : Char) :
    (quoteChar character).flatMap charBytes = (charBytes character).flatMap quoteChar := by
  by_cases same : character = '\''
  · subst same
    have one : ∀ sign ∈ "'\\''".toList, charBytes sign = [sign] := fun sign member =>
      charBytes_of_ascii ((forall_of_all (by decide) : ∀ sign ∈ "'\\''".toList, sign.toNat < 128) sign member)
    simp [quoteChar, one]
  · have apart : '\'' ∉ charBytes character := by
      intro member
      by_cases ascii : character.toNat < 128
      · rw [charBytes_of_ascii ascii, List.mem_singleton] at member
        exact same member.symm
      · exact absurd (high_of_mem_charBytes (by omega) member) (by decide)
    rw [flatMap_quoteChar apart]
    simp [quoteChar, same]

theorem quote_bytewise (word : Text) : (quote word).bytewise = quote word.bytewise := by
  by_cases plain : isPlain word = true
  · rw [quote_of_plain plain, quote_of_plain (by rw [isPlain_bytewise, plain])]
  · have notPlain : isPlain word = false := by simpa using plain
    rw [quote_of_not_plain notPlain, quote_of_not_plain (by rw [isPlain_bytewise, notPlain])]
    have sign : charBytes '\'' = ['\''] := charBytes_of_ascii (by decide)
    simp only [bytewise_eq, List.flatMap_cons, List.flatMap_append, sign, List.flatMap_nil, List.flatMap_assoc,
      quoteChar_bytewise]
    rfl

theorem tail_bytewise (words : List Text) : (tail words).bytewise = tail (words.map bytewise) := by
  induction words with
  | nil => simp [tail, bytewise_eq]
  | cons word others ih =>
      change bytewise (' ' :: quote word ++ tail others) = ' ' :: quote word.bytewise ++ tail (others.map bytewise)
      rw [List.cons_append, bytewise_cons (by decide), bytewise_append, quote_bytewise, ih]
      rfl

end Shell

namespace Command

open Text

def bytewise (command : Command) : Command where
  activation := command.activation.map fun script => .mk script.text.bytewise
  program := .mk command.program.text.bytewise
  arguments := command.arguments.map Text.bytewise

theorem shellText_bytewise (command : Command) : command.shellText.bytewise = command.bytewise.shellText := by
  have joint : Text.bytewise " && " = " && ".toList := bytewise_of_ascii (Shell.forall_of_all (by decide))
  have dot : Text.bytewise "." = ".".toList := bytewise_of_ascii (Shell.forall_of_all (by decide))
  rw [shellText_eq, shellText_eq]
  rcases command with ⟨_ | script, program, arguments⟩
  · simp only [opening, bytewise, Option.map_none, Option.getD_none, List.nil_append, bytewise_append,
      Shell.quote_bytewise, Shell.tail_bytewise, Path.text_mk]
  · simp only [opening, bytewise, Option.map_some, Option.getD_some, bytewise_append, Shell.quote_bytewise,
      Shell.tail_bytewise, joint, dot, List.map_cons, List.map_nil, Path.text_mk]

end Command

end PipDriver
