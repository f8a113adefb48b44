import MipsGloss.Assembly.Gloss
import MipsGloss.Proofs.Assembly.Statement
import MipsGloss.Proofs.Listing.Structure

namespace MipsGloss.Listing

/-! Every entry of a listing has a word of eight digits and a statement that
survives being written: its text reads as the same operation with the same
operands. -/

theorem isBlank_of_isMnemonicCharacter {character : Char}
    (part : isMnemonicCharacter character = true) :
    Text.isBlank character = false ∧ Text.lowerCharacter character = character := by
  have code : 0x61 ≤ character.toNat ∧ character.toNat ≤ 0x7a ∨
      0x30 ≤ character.toNat ∧ character.toNat ≤ 0x39 ∨ character.toNat = 0x2e := by
    simp only [isMnemonicCharacter, isSmallOrDigit, isSmall, Text.isDecimalDigit,
      Text.le_iff_toNat_le, Bool.or_eq_true, Bool.and_eq_true, decide_eq_true_eq,
      beq_iff_eq] at part
    rcases part with (small | digit) | rfl
    · exact .inl small
    · exact .inr (.inl digit)
    · exact .inr (.inr rfl)
  exact ⟨Text.isBlank_eq_false (by omega) (by omega),
    Text.lowerCharacter_eq_self (by omega) (by omega)⟩

/-! ## Where entries come from -/

/-- What is known of an entry that is made from an instruction line. -/
structure Entry.Listed (order : ByteOrder) (entry : Entry) : Prop where
  word : ∃ encoded : Encoded, encoded.Spelled ∧ entry.word = encoded.word order
  mnemonic : IsMnemonic entry.mnemonic.toList
  operands : ∃ written, entry.operands = Operand.split (String.ofList (dropNotes written))

theorem listed_of_entryAt? {order : ByteOrder} {numbered : NumberedLine} {entry : Entry}
    (makes : numbered.entryAt? order = some entry) : entry.Listed order := by
  rcases Line.entryAt?_eq_some makes with
    ⟨address, encoded, mnemonic, operands, recognised, rfl⟩
  rcases Line.read_eq_instruction recognised with ⟨spelled, isMnemonic⟩
  exact ⟨⟨encoded, spelled, rfl⟩, by simpa using isMnemonic, ⟨operands, rfl⟩⟩

theorem listed_of_read {order : ByteOrder} {text : String} {blocks : List Block}
    (success : read order text = .ok blocks) {block : Block} (blockMember : block ∈ blocks)
    {entry : Entry} (member : entry ∈ block.entries) : entry.Listed order := by
  have listed : entry ∈ entriesOf order (numberedLines text) := by
    rw [← entries_read success]
    exact List.mem_flatMap.mpr ⟨block, blockMember, member⟩
  rcases List.mem_filterMap.mp listed with ⟨numbered, _, makes⟩
  exact listed_of_entryAt? makes

/-! ## Words -/

theorem HexDigits.append {first second : Nat} {front back : List Char}
    (frontDigits : HexDigits first front) (backDigits : HexDigits second back) :
    HexDigits (first + second) (front ++ back) := by
  refine ⟨by rw [List.length_append, frontDigits.1, backDigits.1], ?_⟩
  intro digit member
  rcases List.mem_append.mp member with member | member
  · exact frontDigits.2 digit member
  · exact backDigits.2 digit member

/-- Either order of the bytes puts eight digits together. -/
theorem Encoded.word_eq_lower {encoded : Encoded} (spelled : encoded.Spelled)
    (order : ByteOrder) :
    ∃ digits, HexDigits 8 digits ∧ encoded.word order = Text.lower (String.ofList digits) := by
  cases encoded with
  | number digits => exact ⟨digits, spelled, rfl⟩
  | bytes first second third fourth =>
      rcases spelled with ⟨firstDigits, secondDigits, thirdDigits, fourthDigits⟩
      cases order with
      | bigEndian =>
          exact ⟨_, ((firstDigits.append secondDigits).append thirdDigits).append
            fourthDigits, rfl⟩
      | littleEndian =>
          exact ⟨_, ((fourthDigits.append thirdDigits).append secondDigits).append
            firstDigits, rfl⟩

theorem Entry.Listed.word_digits {order : ByteOrder} {entry : Entry}
    (listed : entry.Listed order) :
    entry.word.toList.length = 8 ∧
      ∀ digit ∈ entry.word.toList, Text.isSmallHexDigit digit = true := by
  rcases listed.word with ⟨encoded, spelled, word⟩
  rcases encoded.word_eq_lower spelled order with ⟨digits, hex, lower⟩
  rw [word, lower, Text.lower, String.toList_ofList, String.toList_ofList]
  refine ⟨by rw [List.length_map, hex.1], ?_⟩
  intro digit member
  rcases List.mem_map.mp member with ⟨source, sourceMember, rfl⟩
  exact Text.isSmallHexDigit_lowerCharacter (hex.2 source sourceMember)

/-! ## Statements -/

theorem Entry.Listed.ofLine_text {order : ByteOrder} {entry : Entry}
    (listed : entry.Listed order) : Statement.ofLine entry.text = entry.statement := by
  rcases listed.operands with ⟨written, operands⟩
  have split : entry.operands =
      (Operand.splitCharacters (dropNotes written)).map String.ofList := by
    rw [operands, Operand.split, String.toList_ofList]
  have ends : ∀ operand ∈ Operand.splitCharacters (dropNotes written),
      Text.EndsInk operand := fun operand member =>
    Operand.endsInk_of_mem_splitCharacters (Text.endsInk_trimCharacters _) member
  have plain := fun character member =>
    isBlank_of_isMnemonicCharacter (listed.mnemonic.2 character member)
  have reread := Statement.ofLine_text listed.mnemonic.1
    (fun character member => (plain character member).1)
    (fun character member => (plain character member).2)
    (Operand.separable_splitCharacters (dropNotes written)) ends
  rw [String.ofList_toList, ← split] at reread
  exact reread

/-- An entry that is written and read again has the same operation and the same
operands, so that a gloss of its text is a gloss of the entry. -/
theorem ofLine_text_of_read {order : ByteOrder} {text : String} {blocks : List Block}
    (success : read order text = .ok blocks) :
    ∀ block ∈ blocks, ∀ entry ∈ block.entries,
      Statement.ofLine entry.text = ⟨entry.mnemonic, entry.operands⟩ ∧
        ∀ functs, Gloss.ofLine functs entry.text =
          Gloss.ofStatement functs ⟨entry.mnemonic, entry.operands⟩ := by
  intro block blockMember entry member
  have reread := (listed_of_read success blockMember member).ofLine_text
  refine ⟨reread, fun functs => ?_⟩
  rw [Gloss.ofLine, reread]
  rfl

theorem ofLine_text_sample :
    read .littleEndian sample = .ok sampleBlocks ∧
      Statement.ofLine "lw a0, 8( sp )" = ⟨"lw", ["a0", "8( sp )"]⟩ :=
  ⟨read_sample, (ofLine_text_of_read read_sample _ List.mem_cons_self _
    List.mem_cons_self).1⟩

end MipsGloss.Listing
