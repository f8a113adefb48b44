import Mathlib.Algebra.Ring.Nat
import Mathlib.Data.List.Basic
import Mathlib.Data.List.SplitLengths
import MipsGloss.Proofs.Encoding.Format

namespace MipsGloss

/-! The segments of a word. Whatever the format, its segments are the digits of the
word cut into pieces, in order and without overlap; only the formats that leave a part
of the word unnamed leave digits out. -/

namespace Register

theorem nameOfCode_text (register : Register) :
    nameOfCode (Bits.text register) = register.name := by
  rw [nameOfCode, ofCode?, Bits.text, String.toList_ofList, Bits.ofDigits?_digits]

theorem name_ne_unknownName (register : Register) : register.name ≠ unknownName := by
  have table : ∀ name ∈ names, name ≠ unknownName := by decide
  exact table register.name (List.get_mem names _)

end Register

/-- The digits that the segments of a format show of a word. The instructions of the
coprocessors 0 and 2 leave out the five digits in front of the last six, and an unknown
word shows its opcode alone. -/
def Format.shownDigits (digits : List Char) : Format → List Char
  | .register | .registerTrap | .immediate | .immediateTrap | .jump => digits
  | .special =>
    if digits.take 6 = ['0', '1', '0', '0', '0', '0'] ∨
        digits.take 6 = ['0', '1', '0', '0', '1', '0'] then
      digits.take 21 ++ digits.drop 26
    else digits
  | .unknown => digits.take 6

theorem Word.take_digits_eq_iff (word : Word) (opcode : BitVec 6) :
    (Bits.digits word).take 6 = Bits.digits opcode ↔ word.opcode = opcode := by
  rw [← digits_opcode]
  exact ⟨Bits.digits_injective, congrArg Bits.digits⟩

namespace Segment

theorem toList_text (segment : Segment) : segment.text.toList = Bits.digits segment.bits := by
  rw [text, Bits.text, String.toList_ofList]

@[simp] theorem digits_plain (name : String) {width : Nat} (bits : BitVec width) :
    Bits.digits (plain name bits).bits = Bits.digits bits := rfl

@[simp] theorem digits_register (name : String) (bits : Register) :
    Bits.digits (register name bits).bits = Bits.digits bits := rfl

end Segment

namespace Fields

/-- The digits of the segments, one list for each. -/
def pieces (fields : Fields) : List (List Char) :=
  fields.segments.map fun segment => Bits.digits segment.bits

theorem flatMap_text_segments (fields : Fields) :
    fields.segments.flatMap (·.text.toList) = fields.pieces.flatten := by
  rw [pieces, ← List.flatMap_def]
  exact List.flatMap_congr fun segment _ => segment.toList_text

/-! ## Cutting words -/

theorem flatten_of_widths {fields : Fields} {word : Word} (widths : List Nat)
    (whole : widths.sum = 32) (cut : fields.pieces = widths.splitLengths (Bits.digits word)) :
    fields.pieces.flatten = Bits.digits word := by
  have length : (Bits.digits word).length ≤ widths.sum := by rw [Bits.length_digits, whole]
  rw [cut, List.flatten_splitLengths _ _ length]

/-- The coprocessor instructions that leave out the digits of the shift amount. -/
theorem flatten_of_gap {fields : Fields} {word : Word}
    (cut : fields.pieces = [6, 5, 5, 5].splitLengths ((Bits.digits word).take 21) ++
      [(Bits.digits word).drop 26]) :
    fields.pieces.flatten = (Bits.digits word).take 21 ++ (Bits.digits word).drop 26 := by
  have length : ((Bits.digits word).take 21).length ≤ [6, 5, 5, 5].sum := by
    rw [List.length_take, Bits.length_digits]
    decide
  rw [cut, List.flatten_append, List.flatten_splitLengths _ _ length, List.flatten_singleton]

theorem flatten_pieces_ofSpecial (word : Word) :
    (ofSpecial word).pieces.flatten = Format.shownDigits (Bits.digits word) .special := by
  have control : (Bits.digits word).take 6 = ['0', '1', '0', '0', '0', '0'] ↔
      word.opcode = Format.systemControlOpcode :=
    word.take_digits_eq_iff Format.systemControlOpcode
  have extension : (Bits.digits word).take 6 = ['0', '1', '0', '0', '1', '0'] ↔
      word.opcode = Format.extensionOpcode :=
    word.take_digits_eq_iff Format.extensionOpcode
  have last : ((Bits.digits word).drop 26).take 6 = (Bits.digits word).drop 26 :=
    List.take_of_length_le (by simp [Bits.length_digits])
  simp only [ofSpecial, Format.shownDigits, control, extension]
  by_cases isControl : word.opcode = Format.systemControlOpcode
  · rw [if_pos isControl, if_pos (.inl isControl)]
    exact flatten_of_gap (by simp [pieces, segments, last, List.take_take, List.drop_take])
  by_cases isExtension : word.opcode = Format.extensionOpcode
  · have notFloating : word.opcode ≠ Format.floatingPointOpcode := by
      rw [isExtension]
      decide
    rw [if_neg isControl, if_neg notFloating, if_pos isExtension, if_pos (.inr isExtension)]
    exact flatten_of_gap (by simp [pieces, segments, last, List.take_take, List.drop_take])
  · rw [if_neg isControl, if_neg isExtension, if_neg (not_or.mpr ⟨isControl, isExtension⟩)]
    split_ifs
    · exact flatten_of_widths [6, 5, 5, 5, 5, 6] rfl (by simp [pieces, segments])
    · exact flatten_of_widths [6, 26] rfl (by simp [pieces, segments])

theorem flatten_pieces_ofWord (format : Format) (word : Word) :
    (ofWord format word).pieces.flatten = format.shownDigits (Bits.digits word) := by
  cases format with
  | register =>
      exact flatten_of_widths [6, 5, 5, 5, 5, 6] rfl (by simp [pieces, ofWord, segments])
  | registerTrap =>
      exact flatten_of_widths [6, 5, 5, 10, 6] rfl (by simp [pieces, ofWord, segments])
  | immediate | immediateTrap =>
      exact flatten_of_widths [6, 5, 5, 16] rfl (by simp [pieces, ofWord, segments])
  | jump => exact flatten_of_widths [6, 26] rfl (by simp [pieces, ofWord, segments])
  | special => exact flatten_pieces_ofSpecial word
  | unknown => simp [pieces, ofWord, segments, Format.shownDigits]

/-! ## Register segments -/

theorem width_of_isRegister (fields : Fields) :
    ∀ segment ∈ fields.segments, segment.isRegister = true → segment.width = 5 := by
  cases fields <;> simp [segments, Segment.plain, Segment.register]

/-- The digits of a word, cut as any format says, are the digits that the format shows,
and every register segment has the code of a register. -/
theorem segments_ofDigits {text : String} (length : text.toList.length = 32)
    (binary : ∀ digit ∈ text.toList, Text.isBinaryDigit digit = true) (format : Format) :
    ∃ fields, ofDigits format.name text = .ok fields ∧
      fields.segments.flatMap (·.text.toList) = format.shownDigits text.toList ∧
      ∀ segment ∈ fields.segments, segment.isRegister = true →
        segment.text.toList.length = 5 ∧
          Register.nameOfCode segment.text ≠ Register.unknownName := by
  have spelled : Bits.Spells 32 text (Text.numeralValue 2 text.toList) := ⟨length, binary, rfl⟩
  rw [spelled.eq_text]
  generalize BitVec.ofNat 32 (Text.numeralValue 2 text.toList) = word
  refine ⟨ofWord format word, ofDigits_text format word, ?_, ?_⟩
  · rw [flatMap_text_segments, flatten_pieces_ofWord, Bits.text, String.toList_ofList]
  · intro segment member marked
    rcases segment with ⟨name, width, bits, isRegister⟩
    cases width_of_isRegister _ _ member marked
    rw [Segment.toList_text]
    refine ⟨Bits.length_digits bits, ?_⟩
    change Register.nameOfCode (Bits.text bits) ≠ _
    rw [Register.nameOfCode_text]
    exact Register.name_ne_unknownName bits

/-- The digits of an instruction for the second coprocessor. -/
def extensionDigits : String := "01001010101001100011101100101101"

theorem segments_extensionDigits :
    extensionDigits.toList.length = 32 ∧
      (∀ digit ∈ extensionDigits.toList, Text.isBinaryDigit digit = true) ∧
      ∃ fields, ofDigits Format.special.name extensionDigits = .ok fields ∧
        fields.segments.flatMap (·.text.toList) =
          Format.special.shownDigits extensionDigits.toList ∧
        ∀ segment ∈ fields.segments, segment.isRegister = true →
          segment.text.toList.length = 5 ∧
            Register.nameOfCode segment.text ≠ Register.unknownName := by
  have length : extensionDigits.toList.length = 32 := by decide +kernel
  have binary : ∀ digit ∈ extensionDigits.toList, Text.isBinaryDigit digit = true :=
    List.all_eq_true.mp (by decide +kernel)
  exact ⟨length, binary, segments_ofDigits length binary .special⟩

end Fields

end MipsGloss
