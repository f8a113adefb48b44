import MipsGloss.Proofs.Encoding.Fault
import MipsGloss.Proofs.Report.Word

namespace MipsGloss

/-! How a text fails to be a machine word. With the lexicon that is in use there is one
way only, a bad spelling: what it looks up are always the digits of a word, and a word
always has a format and fields. -/

theorem Bits.ofDigits?_of_not_isEncoding {text : String} (foreign : ¬ Word.IsEncoding text) :
    ofDigits? 32 text.toList = none := by
  apply if_neg
  rintro ⟨length, binary⟩
  exact foreign ⟨length, List.all_eq_true.mp binary⟩

theorem Lexicon.standard_digits_of_error {text : String} {refused : InvalidHexadecimal}
    (failure : Word.ofHexadecimal text = .error refused) :
    Lexicon.standard.digits text = .error refused := by
  change (Word.ofHexadecimal text).map Bits.text = .error refused
  rw [failure]
  rfl

namespace Instruction

variable {lexicon : Lexicon} {text : String}

/-- A word that is read has the fields that its own format gives it. -/
theorem ofDigits_cases (digits : String) :
    (∃ error, Word.ofDigits digits = .error error ∧ ofDigits digits = .error error) ∨
    ∃ instruction, ofDigits digits = .ok instruction ∧
      Fields.ofDigits instruction.format.name digits = .ok instruction.fields := by
  cases read : Word.ofDigits digits with
  | error error => exact .inl ⟨error, rfl, ofDigits_of_error read⟩
  | ok word =>
      exact .inr ⟨ofWord word, ofDigits_of_ok read,
        Fields.ofDigits_of_name read (Format.ofWord word)⟩

theorem ofText_of_refused (foreign : ¬ Word.IsEncoding text) {refused : InvalidHexadecimal}
    (failure : lexicon.digits text = .error refused) :
    ofText lexicon text = .error (.spelling refused) := by
  rw [ofText, Bits.ofDigits?_of_not_isEncoding foreign]
  simp only [failure]

theorem ofText_of_digits (foreign : ¬ Word.IsEncoding text) {digits : String}
    (found : lexicon.digits text = .ok digits) :
    ofText lexicon text = (ofDigits digits).mapError .encoding := by
  rw [ofText, Bits.ofDigits?_of_not_isEncoding foreign]
  simp only [found]
  cases ofDigits digits <;> rfl

/-- A lexicon is to blame for digits that are none. -/
theorem ofText_eq_encoding_iff (lexicon : Lexicon) (foreign : ¬ Word.IsEncoding text) :
    (∃ error, ofText lexicon text = .error (.encoding error)) ↔
      ∃ digits, lexicon.digits text = .ok digits ∧ ¬ Word.IsEncoding digits := by
  cases found : lexicon.digits text with
  | error refused => simp [ofText_of_refused foreign found]
  | ok digits =>
      rw [ofText_of_digits foreign found]
      rcases Word.ofDigits_cases digits with
        ⟨encoding, word, success⟩ | ⟨foreignDigits, error, failure, _⟩
      · simp [ofDigits_of_ok success, Except.mapError, encoding]
      · simp [ofDigits_of_error failure, Except.mapError, foreignDigits]

/-- With the lexicon in use a text is read, or it is refused as a spelling. -/
theorem ofText_standard_cases (text : String) :
    (∃ instruction, ofText Lexicon.standard text = .ok instruction) ∨
    ∃ refused, Word.ofHexadecimal text = .error refused ∧
      ofText Lexicon.standard text = .error (.spelling refused) := by
  by_cases encoding : Word.IsEncoding text
  · rcases encoding.exists_word with ⟨word, rfl⟩
    exact .inl ⟨_, ofText_text Lexicon.standard word⟩
  · cases spelled : Word.ofHexadecimal text with
    | error refused =>
        exact .inr ⟨refused, rfl,
          ofText_of_refused encoding (Lexicon.standard_digits_of_error spelled)⟩
    | ok word =>
        left
        rw [ofText_of_digits encoding (Lexicon.standard_digits spelled), ofDigits_text]
        exact ⟨_, rfl⟩

end Instruction

namespace Report

/-- The ways in which a text is read as a machine word or is not. -/
structure WordOutcome (text : String) : Prop where
  decoded : (∃ instruction, Instruction.ofText Lexicon.standard text = .ok instruction) ∨
    ∃ refused, Word.ofHexadecimal text = .error refused ∧
      Instruction.ofText Lexicon.standard text = .error (.spelling refused)
  explained : (∃ report, explain Lexicon.standard .word text = .ok report) ∨
    ∃ refused, Word.ofHexadecimal (Text.trim text) = .error refused ∧
      explain Lexicon.standard .word text = .error (.word (.spelling refused))
  /-- Reading digits fails over the digits and over nothing else: the fields of the
  format that is chosen can always be had. -/
  sliced : ∀ digits,
    (∃ error, Word.ofDigits digits = .error error ∧
      Instruction.ofDigits digits = .error error) ∨
    ∃ instruction, Instruction.ofDigits digits = .ok instruction ∧
      Fields.ofDigits instruction.format.name digits = .ok instruction.fields
  /-- With any lexicon, digits are refused exactly where the lexicon gives bad ones. -/
  lookedUp : ∀ lexicon, ¬ Word.IsEncoding text →
    ((∃ error, Instruction.ofText lexicon text = .error (.encoding error)) ↔
      ∃ digits, lexicon.digits text = .ok digits ∧ ¬ Word.IsEncoding digits)
  /-- The digits of a word are read in the same way whatever the lexicon. -/
  direct : Word.IsEncoding text → ∃ instruction, Instruction.ofDigits text = .ok instruction ∧
    ∀ lexicon, Instruction.ofText lexicon text = .ok instruction

theorem explain_word_of_error {lexicon : Lexicon} {text : String} {error : WordError}
    (failure : Instruction.ofText lexicon (Text.trim text) = .error error) :
    explain lexicon .word text = .error (.word error) := by
  dsimp only [explain]
  rw [failure]

theorem wordOutcome (text : String) : WordOutcome text where
  decoded := Instruction.ofText_standard_cases text
  explained := by
    rcases Instruction.ofText_standard_cases (Text.trim text) with
      ⟨instruction, decoded⟩ | ⟨refused, spelled, failure⟩
    · exact .inl ⟨_, explain_word decoded⟩
    · exact .inr ⟨refused, spelled, explain_word_of_error failure⟩
  sliced := Instruction.ofDigits_cases
  lookedUp := fun lexicon foreign => Instruction.ofText_eq_encoding_iff lexicon foreign
  direct := by
    intro encoding
    rcases encoding.exists_word with ⟨word, rfl⟩
    exact ⟨_, Instruction.ofDigits_text word, fun lexicon => Instruction.ofText_text lexicon word⟩

end Report

end MipsGloss
