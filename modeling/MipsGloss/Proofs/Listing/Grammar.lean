import MipsGloss.Proofs.Listing.Block

namespace MipsGloss.Listing

/-! The grammar of lines. What is written between the blanks of a line can be taken
apart in one way only, as a header or as an instruction, and the parts say what the
line contributes to a listing. -/

/-! ## Parts are unique

Each part is told from what stands behind it, so that equal lines are equal part by
part. -/

section

variable {rest others : List Char}

theorem Gap.unique {gap other : Gap} (stops : Text.Stops Text.isGap rest)
    (otherStops : Text.Stops Text.isGap others)
    (same : gap.characters ++ rest = other.characters ++ others) :
    gap = other ∧ rest = others := by
  rcases Text.run_unique gap.spaced stops other.spaced otherStops same with ⟨equal, behind⟩
  exact ⟨Gap.ext equal, behind⟩

theorem Numeral.unique {numeral other : Numeral} (stops : Text.Stops Text.isHexDigit rest)
    (otherStops : Text.Stops Text.isHexDigit others)
    (same : numeral.characters ++ rest = other.characters ++ others) :
    numeral = other ∧ rest = others := by
  rcases Text.run_unique numeral.hexadecimal stops other.hexadecimal otherStops same with
    ⟨equal, behind⟩
  exact ⟨Numeral.ext equal, behind⟩

theorem Digits.unique {count : Nat} {digits other : Digits count}
    (same : digits.characters ++ rest = other.characters ++ others) :
    digits = other ∧ rest = others := by
  rcases List.append_inj same (digits.spelled.1.trans other.spelled.1.symm) with
    ⟨equal, behind⟩
  exact ⟨Digits.ext equal, behind⟩

theorem Encoding.unique {encoding other : Encoding}
    (same : encoding.characters ++ rest = other.characters ++ others) :
    encoding = other ∧ rest = others := by
  cases encoding with
  | number digits =>
      cases other with
      | number otherDigits =>
          rcases Digits.unique same with ⟨rfl, behind⟩
          exact ⟨rfl, behind⟩
      | bytes first gap =>
          simp only [Encoding.characters, List.append_assoc] at same
          exact absurd same (number_ne_bytes digits first gap _ _)
  | bytes first firstGap second secondGap third thirdGap fourth =>
      cases other with
      | number digits =>
          simp only [Encoding.characters, List.append_assoc] at same
          exact absurd same.symm (number_ne_bytes digits first firstGap _ _)
      | bytes otherFirst otherFirstGap otherSecond otherSecondGap otherThird otherThirdGap
          otherFourth =>
          simp only [Encoding.characters, List.append_assoc] at same
          rcases Digits.unique same with ⟨rfl, behindFirst⟩
          rcases Gap.unique (second.stops_append _) (otherSecond.stops_append _) behindFirst with
            ⟨rfl, fromSecond⟩
          rcases Digits.unique fromSecond with ⟨rfl, behindSecond⟩
          rcases Gap.unique (third.stops_append _) (otherThird.stops_append _) behindSecond with
            ⟨rfl, fromThird⟩
          rcases Digits.unique fromThird with ⟨rfl, behindThird⟩
          rcases Gap.unique (fourth.stops_append _) (otherFourth.stops_append _) behindThird with
            ⟨rfl, fromFourth⟩
          rcases Digits.unique fromFourth with ⟨rfl, behindFourth⟩
          exact ⟨rfl, behindFourth⟩

end

theorem HeaderLine.unique {header other : HeaderLine}
    (same : header.characters = other.characters) : header = other := by
  rcases Numeral.unique (header.gap.stops_append _) (other.gap.stops_append _) same with
    ⟨address, behindAddress⟩
  have opening : ∀ label, Text.Stops Text.isGap ('<' :: label) := Text.stops_cons (by decide)
  rcases Gap.unique (opening _) (opening _) behindAddress with ⟨gap, behindGap⟩
  have label : header.label = other.label :=
    List.append_cancel_right (List.cons.inj behindGap).2
  exact HeaderLine.ext address gap label

theorem InstructionLine.unique {instruction other : InstructionLine}
    (same : instruction.characters = other.characters) : instruction = other := by
  have colon : ∀ behind, Text.Stops Text.isHexDigit (':' :: behind) :=
    Text.stops_cons (by decide)
  rcases Numeral.unique (colon _) (colon _) same with ⟨address, behindAddress⟩
  rcases Gap.unique (instruction.encoding.stops_append _) (other.encoding.stops_append _)
    (List.cons.inj behindAddress).2 with ⟨firstGap, fromEncoding⟩
  rcases Encoding.unique fromEncoding with ⟨encoding, behindEncoding⟩
  rcases Gap.unique instruction.longest.stops_append other.longest.stops_append
    behindEncoding with ⟨secondGap, fromMnemonic⟩
  rcases instruction.longest.unique other.longest fromMnemonic with ⟨mnemonic, rest⟩
  exact InstructionLine.ext address firstGap encoding secondGap mnemonic rest

/-! ## What lines contribute -/

/-- The digits of an encoded word, as they are grouped. -/
def Encoding.groups : Encoding → List (List Char)
  | .number digits => [digits.characters]
  | .bytes first _ second _ third _ fourth =>
      [first.characters, second.characters, third.characters, fourth.characters]

def Encoding.orderedGroups (encoding : Encoding) : ByteOrder → List (List Char)
  | .bigEndian => encoding.groups
  | .littleEndian => encoding.groups.reverse

theorem Encoding.word_encoded (encoding : Encoding) (order : ByteOrder) :
    encoding.encoded.word order =
      String.ofList ((encoding.orderedGroups order).flatten.map Text.lowerCharacter) := by
  cases encoding <;> cases order <;>
    simp [Encoding.encoded, Encoded.word, Encoding.orderedGroups, Encoding.groups, Text.lower]

def Numeral.value (numeral : Numeral) : Nat := Text.numeralValue 16 numeral.characters

theorem readAddress_numeral (numeral : Numeral) (number : Nat) (kind : LineKind) :
    readAddress number kind numeral.characters =
      if numeral.value < 2 ^ 64 then .ok numeral.value
      else .error (.address number kind (String.ofList numeral.characters)) := rfl

theorem HeaderLine.item_line (header : HeaderLine) (order : ByteOrder) (number : Nat) :
    header.line.item order number =
      if header.address.value < 2 ^ 64 then
        .ok (.start header.address.value (String.ofList header.label))
      else .error (.address number .header (String.ofList header.address.characters)) := by
  rw [HeaderLine.line, Line.item, readAddress_numeral]
  split <;> rfl

/-- The entry that an instruction makes at the given number. -/
def InstructionLine.entryAt (instruction : InstructionLine) (order : ByteOrder)
    (number : Nat) : Entry where
  address := instruction.address.value
  word := String.ofList
    ((instruction.encoding.orderedGroups order).flatten.map Text.lowerCharacter)
  mnemonic := String.ofList instruction.mnemonic
  operands := Operand.split
    (String.ofList (dropNotes (instruction.rest.dropWhile Text.isGap)))
  line := number

theorem InstructionLine.item_line (instruction : InstructionLine) (order : ByteOrder)
    (number : Nat) :
    instruction.line.item order number =
      if instruction.address.value < 2 ^ 64 then .ok (.entry (instruction.entryAt order number))
      else .error
        (.address number .instruction (String.ofList instruction.address.characters)) := by
  rw [InstructionLine.line, Line.item, readAddress_numeral, Encoding.word_encoded]
  split <;> rfl

/-! ## The grammar -/

/-- The two ways to write a line, what each of them is read as, and that nothing else
is read. -/
structure Grammatical (characters : List Char) : Prop where
  header : (∃ address label, Line.read characters = .header address label) ↔
    ∃ header : HeaderLine, header.characters = Text.trimCharacters characters
  instruction :
    (∃ address encoded mnemonic operands,
      Line.read characters = .instruction address encoded mnemonic operands) ↔
    ∃ instruction : InstructionLine,
      instruction.characters = Text.trimCharacters characters
  other : Line.read characters = .other ↔
    (∀ header : HeaderLine, header.characters ≠ Text.trimCharacters characters) ∧
      ∀ instruction : InstructionLine,
        instruction.characters ≠ Text.trimCharacters characters
  /-- No line is both. -/
  apart : ∀ (header : HeaderLine) (instruction : InstructionLine),
    header.characters = Text.trimCharacters characters →
      instruction.characters ≠ Text.trimCharacters characters
  oneHeader : ∀ first second : HeaderLine,
    first.characters = Text.trimCharacters characters →
      second.characters = Text.trimCharacters characters → first = second
  oneInstruction : ∀ first second : InstructionLine,
    first.characters = Text.trimCharacters characters →
      second.characters = Text.trimCharacters characters → first = second
  /-- A header starts a block with its address and its label. -/
  start : ∀ header : HeaderLine, header.characters = Text.trimCharacters characters →
    ∀ order number, (Line.read characters).item order number =
      if header.address.value < 2 ^ 64 then
        .ok (.start header.address.value (String.ofList header.label))
      else .error (.address number .header (String.ofList header.address.characters))
  /-- An instruction makes an entry of its parts. -/
  entry : ∀ instruction : InstructionLine,
    instruction.characters = Text.trimCharacters characters →
    ∀ order number, (Line.read characters).item order number =
      if instruction.address.value < 2 ^ 64 then .ok (.entry (instruction.entryAt order number))
      else .error (.address number .instruction (String.ofList instruction.address.characters))
  nothing : Line.read characters = .other →
    ∀ order number, (Line.read characters).item order number = .ok .nothing

theorem read_grammatical (characters : List Char) : Grammatical characters where
  header := by
    constructor
    · rintro ⟨address, label, found⟩
      rcases Line.read_cases characters with ⟨header, written, _⟩ | ⟨_, _, line⟩ | ⟨line, _⟩
      · exact ⟨header, written⟩
      · rw [found] at line
        cases line
      · rw [found] at line
        cases line
    · rintro ⟨header, written⟩
      exact ⟨_, _, Line.read_of_header header written⟩
  instruction := by
    constructor
    · rintro ⟨address, encoded, mnemonic, operands, found⟩
      rcases Line.exists_instruction found with ⟨instruction, written, _⟩
      exact ⟨instruction, written⟩
    · rintro ⟨instruction, written⟩
      exact ⟨_, _, _, _, Line.read_of_instruction instruction written⟩
  other := by
    constructor
    · intro other
      refine ⟨fun header written => ?_, fun instruction written => ?_⟩
      · have line := Line.read_of_header header written
        rw [other] at line
        cases line
      · have line := Line.read_of_instruction instruction written
        rw [other] at line
        cases line
    · rintro ⟨noHeader, noInstruction⟩
      rcases Line.read_cases characters with
        ⟨header, written, _⟩ | ⟨instruction, written, _⟩ | ⟨other, _⟩
      · exact absurd written (noHeader header)
      · exact absurd written (noInstruction instruction)
      · exact other
  apart := fun header instruction written otherWritten =>
    header_ne_instruction header instruction (written.trans otherWritten.symm)
  oneHeader := fun _ _ first second => HeaderLine.unique (first.trans second.symm)
  oneInstruction := fun _ _ first second => InstructionLine.unique (first.trans second.symm)
  start := by
    intro header written order number
    rw [Line.read_of_header header written, HeaderLine.item_line]
  entry := by
    intro instruction written order number
    rw [Line.read_of_instruction instruction written, InstructionLine.item_line]
  nothing := by
    intro other order number
    rw [other]
    rfl

end MipsGloss.Listing
