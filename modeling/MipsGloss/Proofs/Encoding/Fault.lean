import MipsGloss.Proofs.Encoding.Format

namespace MipsGloss

/-! What keeps a text from being the digits of a word. The digits are checked before
anything else is looked at, so that every reader of digits finds the same fault. -/

theorem Text.byteLength_toList (text : String) : byteLength text.toList = text.utf8ByteSize := by
  have joined : ∀ characters : List Char,
      byteLength characters = (String.ofList characters).utf8ByteSize := by
    intro characters
    induction characters with
    | nil => rfl
    | cons first rest induction =>
        have split : String.ofList (first :: rest) =
            String.singleton first ++ String.ofList rest := by
          rw [String.singleton_eq_ofList, ← String.ofList_append, List.singleton_append]
        rw [split, String.utf8ByteSize_append, String.utf8ByteSize_singleton, ← induction]
        rfl
  rw [joined, String.ofList_toList]

/-! ## The digits of a word -/

/-- Thirty-two characters, each of them a binary digit. -/
def Word.IsEncoding (text : String) : Prop :=
  text.toList.length = 32 ∧ ∀ character ∈ text.toList, Text.isBinaryDigit character = true

/-- What is wrong with a text, as an error and as a message. Its size in bytes comes
first; at the right size it is the first character that is no digit. Only digits stand in
front of it, so that its place in bytes is their number. -/
inductive EncodingError.Tells (text : String) : EncodingError → String → Prop
  | length (size : text.utf8ByteSize ≠ 32) :
      Tells text (.length text.utf8ByteSize)
        ("invalid instruction encoding: expected 32 bits, got " ++
          Text.decimal text.utf8ByteSize)
  | digit {front back : List Char} {found : Char} {position : Nat}
      (size : text.utf8ByteSize = 32)
      (written : text.toList = front ++ found :: back)
      (binary : ∀ character ∈ front, Text.isBinaryDigit character = true)
      (foreign : Text.isBinaryDigit found = false)
      (bytes : (String.ofList front).utf8ByteSize = position)
      (count : front.length = position) :
      Tells text (.digit found position)
        ("invalid instruction encoding: non-binary digit " ++ Text.quoteOne found ++
          " at bit " ++ Text.decimal position)

namespace Word

theorem isEncoding_text (word : Word) : IsEncoding (Bits.text word) :=
  ⟨(Bits.spells_text word).length, (Bits.spells_text word).binary⟩

theorem IsEncoding.exists_word {text : String} (encoding : IsEncoding text) :
    ∃ word : Word, text = Bits.text word :=
  ⟨_, Bits.Spells.eq_text ⟨encoding.1, encoding.2, rfl⟩⟩

theorem isEncoding_iff_ofDigits {text : String} :
    IsEncoding text ↔ ∃ word, ofDigits text = .ok word := by
  constructor
  · intro encoding
    rcases encoding.exists_word with ⟨word, rfl⟩
    exact ⟨word, ofDigits_text word⟩
  · rintro ⟨word, success⟩
    rw [eq_text_of_ofDigits success]
    exact isEncoding_text word

theorem tells_of_ofDigits {text : String} {error : EncodingError}
    (failure : ofDigits text = .error error) : error.Tells text error.message := by
  rw [ofDigits, Text.byteLength_toList] at failure
  split at failure
  · next size =>
      cases failure
      exact .length size
  · next size =>
      split at failure
      · next found rest tail =>
          cases failure
          have written : text.toList =
              text.toList.takeWhile Text.isBinaryDigit ++ found :: rest := by
            rw [← tail, List.takeWhile_append_dropWhile]
          have binary : ∀ character ∈ text.toList.takeWhile Text.isBinaryDigit,
              Text.isBinaryDigit character = true := fun _ => List.mem_takeWhile_imp
          have foreign : Text.isBinaryDigit found = false :=
            Text.stops_dropWhile Text.isBinaryDigit text.toList found (by rw [tail]; rfl)
          refine .digit (not_not.mp size) written binary foreign ?_ rfl
          rw [← Text.byteLength_toList, String.toList_ofList, byteLength_of_isBinaryDigit binary]
      · cases failure

/-- Thirty-one characters may have thirty-two bytes. -/
example : ofDigits "01é0000000000000000000000000000" = .error (.digit 'é' 2) := by
  decide +kernel

/-- Digits that are read are those of a word, and all others are refused for what is
wrong with them. -/
theorem ofDigits_cases (text : String) :
    (IsEncoding text ∧ ∃ word, ofDigits text = .ok word) ∨
    (¬ IsEncoding text ∧ ∃ error : EncodingError,
      ofDigits text = .error error ∧ error.Tells text error.message) := by
  cases read : ofDigits text with
  | ok word => exact .inl ⟨isEncoding_iff_ofDigits.mpr ⟨word, read⟩, word, rfl⟩
  | error error =>
      refine .inr ⟨?_, error, rfl, tells_of_ofDigits read⟩
      intro encoding
      rcases isEncoding_iff_ofDigits.mp encoding with ⟨word, success⟩
      rw [read] at success
      cases success

end Word

/-! ## Readers of digits -/

theorem Format.ofName?_eq_none_iff {name : String} :
    ofName? name = none ↔ ∀ format : Format, format.name ≠ name := by
  have complete : ∀ format, format ∈ all := by
    intro format
    cases format <;> decide
  simp only [ofName?, List.find?_eq_none, beq_iff_eq]
  exact ⟨fun absent format => absent format (complete format),
    fun absent format _ => absent format⟩

theorem Instruction.ofDigits_of_error {text : String} {error : EncodingError}
    (failure : Word.ofDigits text = .error error) : ofDigits text = .error error := by
  rw [ofDigits, failure]
  rfl

theorem Instruction.ofDigits_of_ok {text : String} {word : Word}
    (success : Word.ofDigits text = .ok word) : ofDigits text = .ok (ofWord word) := by
  rw [ofDigits, success]
  rfl

namespace Fields

variable {text : String}

theorem ofDigits_of_error {error : EncodingError} (failure : Word.ofDigits text = .error error)
    (name : String) : ofDigits name text = .error (.encoding error) := by
  rw [ofDigits, Instruction.ofDigitsAs, failure]
  rfl

theorem ofDigits_of_unnamed {word : Word} (success : Word.ofDigits text = .ok word)
    {name : String} (unnamed : ∀ format : Format, format.name ≠ name) :
    ofDigits name text = .error (.format name) := by
  rw [ofDigits, Instruction.ofDigitsAs, success, Format.ofName?_eq_none_iff.mpr unnamed]
  rfl

theorem ofDigits_of_name {word : Word} (success : Word.ofDigits text = .ok word)
    (format : Format) : ofDigits format.name text = .ok (ofWord format word) := by
  rw [Word.eq_text_of_ofDigits success, ofDigits_text]

end Fields

/-- The faults of a text as digits, and of a name as that of a format. -/
structure Checked (text name : String) : Prop where
  instruction : (∃ error, Instruction.ofDigits text = .error error) ↔ ¬ Word.IsEncoding text
  fields : (∃ error, Fields.ofDigits name text = .error (.encoding error)) ↔
    ¬ Word.IsEncoding text
  /-- Both readers say the same about a text that is no encoding. -/
  shared : ¬ Word.IsEncoding text → ∃ error message, EncodingError.Tells text error message ∧
    Instruction.ofDigits text = .error error ∧ error.message = message ∧
    Fields.ofDigits name text = .error (.encoding error) ∧
    (SliceError.encoding error).message = message
  /-- Only behind an encoding is the name looked at. -/
  format : Word.IsEncoding text →
    ((∃ error, Fields.ofDigits name text = .error error) ↔
      ∀ format : Format, format.name ≠ name) ∧
    ∀ error, Fields.ofDigits name text = .error error → error = .format name

theorem checked_ofDigits (text name : String) : Checked text name := by
  rcases Word.ofDigits_cases text with
    ⟨encoding, word, success⟩ | ⟨foreign, error, failure, tells⟩
  · have instruction := Instruction.ofDigits_of_ok success
    by_cases unnamed : ∀ format : Format, format.name ≠ name
    · have fields := Fields.ofDigits_of_unnamed success unnamed
      exact {
        instruction := by simp [instruction, encoding]
        fields := by simp [fields, encoding]
        shared := fun foreign => absurd encoding foreign
        format := fun _ => ⟨by simp [fields, unnamed], by simp [fields]⟩ }
    · rcases not_forall_not.mp unnamed with ⟨format, rfl⟩
      have fields := Fields.ofDigits_of_name success format
      exact {
        instruction := by simp [instruction, encoding]
        fields := by simp [fields, encoding]
        shared := fun foreign => absurd encoding foreign
        format := fun _ => ⟨by simp [fields], by simp [fields]⟩ }
  · have instruction := Instruction.ofDigits_of_error failure
    have fields := Fields.ofDigits_of_error failure name
    exact {
      instruction := by simp [instruction, foreign]
      fields := by simp [fields, foreign]
      shared := fun _ => ⟨error, _, tells, instruction, rfl, fields, rfl⟩
      format := fun encoding => absurd encoding foreign }

end MipsGloss
