import MipsGloss.Proofs.Assembly.Funct
import MipsGloss.Proofs.Encoding.Fault
import MipsGloss.Report

namespace MipsGloss

/-! Function codes in the two views of an instruction. The code that a line of assembly is
given is the one by which its word is told from others: traps by the codes of traps, and
every operation by a code of its own. Multiplication into a register is the exception: its
code belongs to another opcode, and below the opcode of the others it is that of a shift. -/

/-! ## The tables -/

namespace Funct

/-- The operations that trap on two registers. -/
def trapOperations : List String := ["teq", "tge", "tgeu", "tlt", "tltu", "tne"]

/-- The codes of traps are the codes by which words are taken for traps. -/
theorem contains_trapFunctions_iff {operation : String} {code : BitVec 6}
    (row : (operation, code) ∈ codes) (single : operation ≠ "mul") :
    Format.trapFunctions.contains code = true ↔ operation ∈ trapOperations := by
  have rows : ∀ row ∈ codes, row.1 ≠ "mul" →
      (Format.trapFunctions.contains row.2 = true ↔ row.1 ∈ trapOperations) := by
    decide +kernel
  exact rows (operation, code) row single

theorem operation_unique {left right : String} {code : BitVec 6}
    (leftRow : (left, code) ∈ codes) (rightRow : (right, code) ∈ codes)
    (leftSingle : left ≠ "mul") (rightSingle : right ≠ "mul") : left = right := by
  have rows : ∀ left ∈ codes, left.1 ≠ "mul" → ∀ right ∈ codes, right.1 ≠ "mul" →
      left.2 = right.2 → left.1 = right.1 := by
    decide +kernel
  exact rows (left, code) leftRow leftSingle (right, code) rightRow rightSingle rfl

example : code? "mul" = code? "srl" := by decide +kernel

end Funct

/-- The table of operations has small letters only. -/
theorem Category.lower_operation {operation : String} {category : Category}
    (found : ofOperation? operation = some category) : Text.lower operation = operation := by
  have rows : table.all (fun pair => pair.1.toList.all fun character =>
      decide (character.toNat < 0x80 ∧
        ¬ (0x41 ≤ character.toNat ∧ character.toNat ≤ 0x5a))) = true := by
    decide +kernel
  have small : ∀ character ∈ operation.toList, Text.lowerCharacter character = character := by
    intro character member
    have row := List.all_eq_true.mp rows (operation, category) (mem_table found)
    rcases of_decide_eq_true (List.all_eq_true.mp row character member) with ⟨ascii, noCapital⟩
    exact Text.lowerCharacter_eq_self ascii noCapital
  have lowered := Text.lower_ofList_eq_self small
  rwa [String.ofList_toList] at lowered

/-! ## Lines -/

/-- The function code of a statement is that of its operation. -/
theorem Gloss.exists_code {statement : Statement} {funct : String} {gloss : Gloss}
    (success : ofStatement Lexicon.standard.functs statement = .ok gloss)
    (coded : gloss.record.value? "funct" = some funct) :
    ∃ code, (gloss.operation, code) ∈ Funct.codes ∧ funct = Bits.text code := by
  rcases (value?_funct_eq_some_iff success funct).mp coded with ⟨category, found, _, known⟩
  rcases eq_ofKnown_of_ofStatement found success with ⟨_, rfl⟩
  rcases Option.map_eq_some_iff.mp known with ⟨code, selected, rfl⟩
  rw [Funct.code?, Category.lower_operation found] at selected
  exact ⟨code, mem_of_lookup selected, rfl⟩

/-! ## Words -/

theorem Bits.text_injective {left right : BitVec width} (same : text left = text right) :
    left = right :=
  digits_injective (String.ofList_inj.mp same)

namespace Word

/-- The opcode of function codes, the digits of a code, and other digits between them. -/
def functionDigits (between funct : String) : String := "000000" ++ between ++ funct

theorem digits_functionOpcode : "000000".toList = Bits.digits Format.functionOpcode := by decide

theorem exists_functionWord {between : String} (length : between.toList.length = 20)
    (binary : ∀ digit ∈ between.toList, Text.isBinaryDigit digit = true) (code : BitVec 6) :
    ∃ word : Word, functionDigits between (Bits.text code) = Bits.text word ∧
      word.opcode = Format.functionOpcode ∧ word.funct = code := by
  have opcodeLength := Bits.length_digits Format.functionOpcode
  have codeLength := Bits.length_digits code
  have written : (functionDigits between (Bits.text code)).toList =
      Bits.digits Format.functionOpcode ++ (between.toList ++ Bits.digits code) := by
    simp [functionDigits, Bits.text, digits_functionOpcode]
  have encoding : IsEncoding (functionDigits between (Bits.text code)) := by
    constructor
    · simp [written, opcodeLength, codeLength, length]
    · rw [written, List.forall_mem_append, List.forall_mem_append]
      exact ⟨fun _ => Bits.isBinaryDigit_of_mem_digits, binary,
        fun _ => Bits.isBinaryDigit_of_mem_digits⟩
  rcases encoding.exists_word with ⟨word, same⟩
  have digits : Bits.digits word =
      Bits.digits Format.functionOpcode ++ (between.toList ++ Bits.digits code) := by
    rw [← written, same, Bits.text, String.toList_ofList]
  refine ⟨word, same, Bits.digits_injective ?_, Bits.digits_injective ?_⟩
  · rw [digits_opcode, digits, List.take_left' opcodeLength]
  · have front : (Bits.digits Format.functionOpcode ++ between.toList).length = 26 := by
      rw [List.length_append, opcodeLength, length]
    rw [digits_funct, digits, ← List.append_assoc, List.drop_left' front,
      List.take_of_length_le (Nat.le_of_eq codeLength)]

end Word

namespace Instruction

variable {word : Word}

theorem format_functionWord (opcode : word.opcode = Format.functionOpcode) :
    (ofWord word).format =
      if Format.trapFunctions.contains word.funct then .registerTrap else .register := by
  simp only [ofWord, ofWordAs, Format.ofWord, opcode, if_true]

/-- The texts of the segments of the given name. -/
def segmentTexts (instruction : Instruction) (name : String) : List String :=
  (instruction.fields.segments.filter (·.name == name)).map (·.text)

theorem segmentTexts_functionWord (opcode : word.opcode = Format.functionOpcode) :
    (ofWord word).segmentTexts "funct" = [Bits.text word.funct] := by
  have format : Format.ofWord word = .registerTrap ∨ Format.ofWord word = .register := by
    have known : Format.ofWord word = _ := format_functionWord opcode
    rw [known]
    split
    · exact .inl rfl
    · exact .inr rfl
  rw [ofWord]
  rcases format with trap | plain
  · rw [trap]
    rfl
  · rw [plain]
    rfl

end Instruction

/-! ## Both views -/

namespace Gloss

/-- A word with the function code of a line has the format that the operation of the line
asks for and shows the same code, whatever its other digits; and lines of two operations
never have the same code. -/
theorem funct_agrees {line funct : String} {gloss : Gloss}
    (success : ofLine Lexicon.standard.functs line = .ok gloss)
    (coded : gloss.record.value? "funct" = some funct) (single : gloss.operation ≠ "mul") :
    (∀ between : String, between.toList.length = 20 →
      (∀ digit ∈ between.toList, Text.isBinaryDigit digit = true) →
      ∃ instruction,
        Instruction.ofDigits (Word.functionDigits between funct) = .ok instruction ∧
        instruction.format =
          (if gloss.operation ∈ Funct.trapOperations then .registerTrap else .register) ∧
        instruction.segmentTexts "funct" = [funct]) ∧
    ∀ (other : String) (otherGloss : Gloss),
      ofLine Lexicon.standard.functs other = .ok otherGloss →
      otherGloss.operation ≠ "mul" → otherGloss.operation ≠ gloss.operation →
      otherGloss.record.value? "funct" ≠ some funct := by
  -- Both parts rest on the row of the operation in the table of codes.
  rcases exists_code success coded with ⟨code, row, rfl⟩
  constructor
  · intro between length binary
    rcases Word.exists_functionWord length binary code with ⟨word, written, opcode, rfl⟩
    refine ⟨Instruction.ofWord word, ?_, ?_, Instruction.segmentTexts_functionWord opcode⟩
    · rw [written, Instruction.ofDigits_text]
    · rw [Instruction.format_functionWord opcode]
      simp only [Funct.contains_trapFunctions_iff row single]
  · intro other otherGloss otherSuccess otherSingle different otherCoded
    rcases exists_code otherSuccess otherCoded with ⟨otherCode, otherRow, same⟩
    cases Bits.text_injective same
    exact different (Funct.operation_unique otherRow row otherSingle single)

/-- A trap, against a shift. -/
theorem funct_agrees_trap :
    ∃ gloss, ofLine Lexicon.standard.functs "TGEU $a0, $a1" = .ok gloss ∧
      gloss.record.value? "funct" = some "110001" ∧ gloss.operation ≠ "mul" ∧
      (∃ instruction, Instruction.ofDigits
          (Word.functionDigits "00100001011111100110" "110001") = .ok instruction ∧
        instruction.format = .registerTrap ∧ instruction.segmentTexts "funct" = ["110001"]) ∧
      ∃ other, ofLine Lexicon.standard.functs "srl $t0, $t1, 3" = .ok other ∧
        other.operation ≠ "mul" ∧ other.operation ≠ gloss.operation ∧
        other.record.value? "funct" ≠ some "110001" := by
  have success : ofLine Lexicon.standard.functs "TGEU $a0, $a1" =
      .ok ⟨"tgeu", "Trap if $a0 >= $a1 (unsigned)",
        [(.rs, some "$a0"), (.rt, some "$a1"), (.rd, none), (.shamt, some "0"),
          (.funct, some "110001")]⟩ := by decide +kernel
  have otherSuccess : ofLine Lexicon.standard.functs "srl $t0, $t1, 3" =
      .ok ⟨"srl", "$t0 = $t1 >> 3 (shift right logical)",
        [(.rs, none), (.rt, some "$t1"), (.rd, some "$t0"), (.shamt, some "3"),
          (.funct, some "000010")]⟩ := by decide +kernel
  have binary : ∀ digit ∈ "00100001011111100110".toList, Text.isBinaryDigit digit = true :=
    List.all_eq_true.mp (by decide +kernel)
  rcases funct_agrees success (show Record.value? _ "funct" = some "110001" by decide +kernel)
    (by decide) with ⟨words, lines⟩
  refine ⟨_, success, by decide +kernel, by decide, words _ (by decide +kernel) binary, _,
    otherSuccess, by decide, by decide, ?_⟩
  exact lines _ _ otherSuccess (by decide) (by decide)

end Gloss

end MipsGloss
