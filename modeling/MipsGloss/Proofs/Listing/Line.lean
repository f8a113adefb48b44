import MipsGloss.Proofs.Listing.Part

namespace MipsGloss.Listing

/-! Lines as they are written. A line is read as a header or as an instruction exactly
when it is written as one. -/

/-- A header as it is written, without the blanks around it. -/
@[ext]
structure HeaderLine where
  address : Numeral
  gap : Gap
  label : List Char
  filled : label ≠ []
  inside : '>' ∉ label

/-- An instruction as it is written, without the blanks around it. -/
@[ext]
structure InstructionLine where
  address : Numeral
  firstGap : Gap
  encoding : Encoding
  secondGap : Gap
  mnemonic : List Char
  rest : List Char
  longest : IsLongestMnemonic mnemonic rest

namespace HeaderLine

def characters (header : HeaderLine) : List Char :=
  header.address.characters ++ (header.gap.characters ++
    '<' :: (header.label ++ ['>', ':']))

def line (header : HeaderLine) : Line := .header header.address.characters header.label

end HeaderLine

namespace InstructionLine

def characters (instruction : InstructionLine) : List Char :=
  instruction.address.characters ++ ':' :: (instruction.firstGap.characters ++
    (instruction.encoding.characters ++ (instruction.secondGap.characters ++
      (instruction.mnemonic ++ instruction.rest))))

def line (instruction : InstructionLine) : Line :=
  .instruction instruction.address.characters instruction.encoding.encoded
    instruction.mnemonic (instruction.rest.dropWhile Text.isGap)

end InstructionLine

theorem header?_eq_some_iff {characters : List Char} {line : Line} :
    header? characters = some line ↔
      ∃ header : HeaderLine, header.characters = characters ∧ header.line = line := by
  simp only [header?, Option.bind_eq_bind, Option.bind_eq_some_iff, Prod.exists,
    takeAddress?_eq_some_iff, skipGap?_eq_some_iff]
  constructor
  · rintro ⟨_, _, ⟨-, address, rfl, rfl⟩, _, ⟨-, gap, rfl⟩, found⟩
    split at found
    · next inner =>
        split at found
        · next labelled =>
            cases found
            have whole : inner.takeWhile (· != '>') ++ ['>', ':'] = inner := by
              rw [← labelled.2, List.takeWhile_append_dropWhile]
            refine ⟨⟨address, gap, inner.takeWhile (· != '>'), labelled.1, ?_⟩, ?_, rfl⟩
            · intro closing
              simpa using List.mem_takeWhile_imp closing
            · simp only [HeaderLine.characters, whole]
        · cases found
    · cases found
  · rintro ⟨header, rfl, rfl⟩
    refine ⟨_, _, ⟨header.gap.stops_append _, header.address, rfl, rfl⟩,
      '<' :: (header.label ++ ['>', ':']), ⟨Text.stops_cons (by decide) _, header.gap, rfl⟩, ?_⟩
    have within := Text.bne_of_not_mem header.inside
    have stops : Text.Stops (· != '>') ['>', ':'] := Text.stops_cons (by decide) _
    simp only [Text.takeWhile_append_of_stops within stops,
      Text.dropWhile_append_of_stops within stops]
    exact if_pos ⟨header.filled, trivial⟩

theorem header?_eq_none {characters : List Char}
    (unwritten : ∀ header : HeaderLine, header.characters ≠ characters) :
    header? characters = none := by
  apply Option.eq_none_iff_forall_ne_some.mpr
  intro line found
  rcases header?_eq_some_iff.mp found with ⟨header, written, _⟩
  exact unwritten header written

theorem instruction?_eq_some_iff {characters : List Char} {line : Line} :
    instruction? characters = some line ↔
      ∃ instruction : InstructionLine,
        instruction.characters = characters ∧ instruction.line = line := by
  simp only [instruction?, Option.bind_eq_bind, Option.bind_eq_some_iff, Prod.exists,
    takeAddress?_eq_some_iff]
  constructor
  · rintro ⟨_, _, ⟨-, address, rfl, rfl⟩, found⟩
    split at found
    · simp only [Option.bind_eq_some_iff, Prod.exists, skipGap?_eq_some_iff,
        takeEncoded?_eq_some_iff, takeMnemonic?_eq_some_iff] at found
      rcases found with ⟨_, ⟨-, firstGap, rfl⟩, _, _, ⟨encoding, rfl, rfl⟩, _,
        ⟨-, secondGap, rfl⟩, mnemonic, rest, ⟨longest, rfl⟩, same⟩
      cases same
      exact ⟨⟨address, firstGap, encoding, secondGap, mnemonic, rest, longest⟩, rfl, rfl⟩
    · cases found
  · rintro ⟨instruction, rfl, rfl⟩
    refine ⟨_, _, ⟨Text.stops_cons (by decide) _, instruction.address, rfl, rfl⟩, ?_⟩
    simp only [Option.bind_eq_some_iff, Prod.exists, skipGap?_eq_some_iff,
      takeEncoded?_eq_some_iff, takeMnemonic?_eq_some_iff]
    exact ⟨_, ⟨instruction.encoding.stops_append _, instruction.firstGap, rfl⟩, _, _,
      ⟨instruction.encoding, rfl, rfl⟩, _,
      ⟨instruction.longest.stops_append, instruction.secondGap, rfl⟩, _, _,
      ⟨instruction.longest, rfl⟩, rfl⟩

theorem instruction?_eq_none {characters : List Char}
    (unwritten : ∀ instruction : InstructionLine, instruction.characters ≠ characters) :
    instruction? characters = none := by
  apply Option.eq_none_iff_forall_ne_some.mpr
  intro line found
  rcases instruction?_eq_some_iff.mp found with ⟨instruction, written, _⟩
  exact unwritten instruction written

/-- Behind the address, a header has a gap and an instruction a colon. -/
theorem header_ne_instruction (header : HeaderLine) (instruction : InstructionLine) :
    header.characters ≠ instruction.characters := by
  intro same
  have stops : Text.Stops Text.isHexDigit (':' :: (instruction.firstGap.characters ++
      (instruction.encoding.characters ++ (instruction.secondGap.characters ++
        (instruction.mnemonic ++ instruction.rest))))) := Text.stops_cons (by decide) _
  have behind := (Text.run_unique header.address.hexadecimal (header.gap.stops_append _)
    instruction.address.hexadecimal stops same).2
  rcases header.gap.exists_cons with ⟨first, others, written, spaced⟩
  rw [written, List.cons_append] at behind
  rw [(List.cons.inj behind).1] at spaced
  revert spaced
  decide

namespace Line

theorem read_of_header {characters : List Char} (header : HeaderLine)
    (written : header.characters = Text.trimCharacters characters) :
    Line.read characters = header.line := by
  have found : header? (Text.trimCharacters characters) = some header.line :=
    header?_eq_some_iff.mpr ⟨header, written, rfl⟩
  rw [Line.read, found]
  rfl

theorem read_of_instruction {characters : List Char} (instruction : InstructionLine)
    (written : instruction.characters = Text.trimCharacters characters) :
    Line.read characters = instruction.line := by
  have found : instruction? (Text.trimCharacters characters) = some instruction.line :=
    instruction?_eq_some_iff.mpr ⟨instruction, written, rfl⟩
  have noHeader : header? (Text.trimCharacters characters) = none :=
    header?_eq_none fun header => written ▸ header_ne_instruction header instruction
  rw [Line.read, noHeader, found]
  rfl

/-- A line is read as what it is written as, and passed over when it is neither. -/
theorem read_cases (characters : List Char) :
    (∃ header : HeaderLine, header.characters = Text.trimCharacters characters ∧
      Line.read characters = header.line) ∨
    (∃ instruction : InstructionLine,
      instruction.characters = Text.trimCharacters characters ∧
        Line.read characters = instruction.line) ∨
    (Line.read characters = .other ∧
      (∀ header : HeaderLine, header.characters ≠ Text.trimCharacters characters) ∧
      ∀ instruction : InstructionLine,
        instruction.characters ≠ Text.trimCharacters characters) := by
  by_cases headed : ∃ header : HeaderLine, header.characters = Text.trimCharacters characters
  · rcases headed with ⟨header, written⟩
    exact .inl ⟨header, written, read_of_header header written⟩
  by_cases instructed : ∃ instruction : InstructionLine,
      instruction.characters = Text.trimCharacters characters
  · rcases instructed with ⟨instruction, written⟩
    exact .inr (.inl ⟨instruction, written, read_of_instruction instruction written⟩)
  refine .inr (.inr ⟨?_, not_exists.mp headed, not_exists.mp instructed⟩)
  rw [Line.read, header?_eq_none (not_exists.mp headed),
    instruction?_eq_none (not_exists.mp instructed)]
  rfl

theorem exists_instruction {characters address mnemonic operands : List Char}
    {encoded : Encoded}
    (found : Line.read characters = .instruction address encoded mnemonic operands) :
    ∃ instruction : InstructionLine,
      instruction.characters = Text.trimCharacters characters ∧
        instruction.line = .instruction address encoded mnemonic operands := by
  rcases read_cases characters with
    ⟨header, _, same⟩ | ⟨instruction, written, same⟩ | ⟨same, _⟩
  · rw [found] at same
    cases same
  · exact ⟨instruction, written, same.symm.trans found⟩
  · rw [found] at same
    cases same

theorem read_eq_instruction {characters address mnemonic operands : List Char}
    {encoded : Encoded}
    (found : Line.read characters = .instruction address encoded mnemonic operands) :
    encoded.Spelled ∧ IsMnemonic mnemonic := by
  rcases exists_instruction found with ⟨instruction, _, line⟩
  cases line
  exact ⟨instruction.encoding.spelled_encoded,
    isMnemonic_of_spellsMnemonic instruction.longest.1⟩

end Line

end MipsGloss.Listing
