import MipsGloss.Proofs.Report

namespace MipsGloss

/-! Reports on single words. A word is explained in the same way from all of its
spellings, in hexadecimal or in binary. -/

theorem Bits.trim_text {before after : List Char}
    (blankBefore : ∀ character ∈ before, Text.isBlank character = true)
    (blankAfter : ∀ character ∈ after, Text.isBlank character = true) (bits : BitVec width) :
    Text.trim (String.ofList (before ++ (text bits).toList ++ after)) = text bits := by
  have blankless : ∀ character ∈ (text bits).toList, Text.isBlank character = false := by
    intro character member
    rcases Text.isBinaryDigit_iff.mp ((spells_text bits).binary character member) with
      rfl | rfl <;> decide
  rw [Text.trim, String.toList_ofList,
    Text.trimCharacters_around_ink blankBefore blankAfter blankless, String.ofList_toList]

namespace Instruction

/-- Thirty-two binary digits are read without looking them up. -/
theorem ofText_text (lexicon : Lexicon) (word : Word) :
    ofText lexicon (Bits.text word) = .ok (ofWord word) := by
  rw [ofText, Bits.text, String.toList_ofList, Bits.ofDigits?_digits]

theorem ofText_spelling (spelling : Word.Spelling) :
    ofText Lexicon.standard (Text.trim spelling.text) =
      .ok (ofWord (BitVec.ofNat 32 spelling.value)) := by
  have length : (Text.trim spelling.text).toList.length ≠ 32 := by
    have bound := spelling.length_ink_le
    rw [Text.trim, spelling.trimCharacters_text, String.toList_ofList]
    omega
  rw [spelling.trim_text] at length ⊢
  rw [ofText_of_ofHexadecimal length spelling.trimmed.ofHexadecimal_text, spelling.value_trimmed]

end Instruction

namespace Report

theorem explain_word {lexicon : Lexicon} {text : String} {instruction : Instruction}
    (decoded : Instruction.ofText lexicon (Text.trim text) = .ok instruction) :
    explain lexicon .word text = .ok (ofInstruction (Text.trim text) instruction) := by
  dsimp only [explain]
  rw [decoded]

/-- Every spelling of a value in hexadecimal gives the binary digits of the value, and
its report has the binary view that the digits have by themselves. -/
theorem explain_spelling (spelling : Word.Spelling) :
    ∃ (digits : String) (instruction : Instruction),
      Bits.Spells 32 digits spelling.value ∧
      Lexicon.standard.digits spelling.text = .ok digits ∧
      Text.trim spelling.text = String.ofList (spelling.mark ++ spelling.digits) ∧
      explain Lexicon.standard .word spelling.text =
        .ok { input := Text.trim spelling.text, mode := "hex", address := "", block := ""
              binary := some instruction, assembly := none } ∧
      ∀ before after : List Char,
        (∀ character ∈ before, Text.isBlank character = true) →
        (∀ character ∈ after, Text.isBlank character = true) →
        ∃ report,
          explain Lexicon.standard .word (String.ofList (before ++ digits.toList ++ after)) =
            .ok report ∧ report.binary = some instruction := by
  let word : Word := BitVec.ofNat 32 spelling.value
  refine ⟨Bits.text word, Instruction.ofWord word, Bits.spells_text_ofNat spelling.value_lt,
    Lexicon.standard_digits spelling.ofHexadecimal_text, ?_,
    explain_word (Instruction.ofText_spelling spelling), ?_⟩
  · rw [Text.trim, spelling.trimCharacters_text, Word.Spelling.ink]
  · intro before after blankBefore blankAfter
    have trimmed := Bits.trim_text blankBefore blankAfter word
    have decoded := Instruction.ofText_text Lexicon.standard word
    rw [← trimmed] at decoded
    exact ⟨_, explain_word decoded, rfl⟩

/-- `0X00aBcDeF` between blanks of four kinds. -/
def mixedSpelling : Word.Spelling where
  before := ['\u00a0', '\t']
  mark := ['0', 'X']
  digits := ['0', '0', 'a', 'B', 'c', 'D', 'e', 'F']
  after := ['\u2003', '\n']
  blankBefore := List.all_eq_true.mp (by decide)
  marked := by decide
  filled := by decide
  short := by decide
  hexadecimal := List.all_eq_true.mp (by decide)
  blankAfter := List.all_eq_true.mp (by decide)

theorem explain_mixedSpelling :
    mixedSpelling.value = 0xabcdef ∧
      ∃ (digits : String) (instruction : Instruction),
        Bits.Spells 32 digits mixedSpelling.value ∧
        Lexicon.standard.digits mixedSpelling.text = .ok digits ∧
        Text.trim mixedSpelling.text =
          String.ofList (mixedSpelling.mark ++ mixedSpelling.digits) ∧
        explain Lexicon.standard .word mixedSpelling.text =
          .ok { input := Text.trim mixedSpelling.text, mode := "hex", address := "", block := ""
                binary := some instruction, assembly := none } ∧
        ∀ before after : List Char,
          (∀ character ∈ before, Text.isBlank character = true) →
          (∀ character ∈ after, Text.isBlank character = true) →
          ∃ report,
            explain Lexicon.standard .word (String.ofList (before ++ digits.toList ++ after)) =
              .ok report ∧ report.binary = some instruction :=
  ⟨by decide, explain_spelling mixedSpelling⟩

end Report

end MipsGloss
