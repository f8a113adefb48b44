import Mathlib.Data.List.Basic
import MipsGloss.Proofs.Listing.Block

namespace MipsGloss.Listing

/-! A listing cannot be read exactly when one of its lines is at fault, and the
error is the one of the first such line. -/

/-- How a line can be at fault, below the given lines. Whether an instruction may
stand there depends on the headers above it. -/
inductive Fault (above : List (List Char)) (characters : List Char) : Error → Prop
  | long (long : 65536 ≤ Text.byteLength characters) : Fault above characters .longLine
  | header {address label : List Char}
      (short : Text.byteLength characters < 65536)
      (header : lineOf characters = .header address label)
      (outOfRange : 2 ^ 64 ≤ Text.numeralValue 16 address) :
      Fault above characters
        (.address (above.length + 1) .header (String.ofList address))
  | instruction {address mnemonic operands : List Char} {encoded : Encoded}
      (short : Text.byteLength characters < 65536)
      (instruction : lineOf characters = .instruction address encoded mnemonic operands)
      (outOfRange : 2 ^ 64 ≤ Text.numeralValue 16 address) :
      Fault above characters
        (.address (above.length + 1) .instruction (String.ofList address))
  | noBlock {address mnemonic operands : List Char} {encoded : Encoded}
      (short : Text.byteLength characters < 65536)
      (instruction : lineOf characters = .instruction address encoded mnemonic operands)
      (inRange : Text.numeralValue 16 address < 2 ^ 64)
      (noHeader : ∀ line ∈ above, (lineOf line).isHeader = false) :
      Fault above characters (.noBlock (above.length + 1))

/-- None of the lines is at fault, where others stand above them. -/
def Clear (above lines : List (List Char)) : Prop :=
  ∀ before line after, lines = before ++ line :: after →
    ∀ error, ¬ Fault (above ++ before) line error

/-! ## Faults by kind of line -/

section

variable {above : List (List Char)} {characters : List Char} {error : Error}

theorem fault_iff_of_long (long : 65536 ≤ Text.byteLength characters) :
    Fault above characters error ↔ error = .longLine := by
  constructor
  · intro fault
    cases fault with
    | long => rfl
    | header short | instruction short | noBlock short => omega
  · rintro rfl
    exact .long long

theorem not_fault_of_other (short : Text.byteLength characters < 65536)
    (other : lineOf characters = .other) : ¬ Fault above characters error := by
  intro fault
  cases fault with
  | long long => omega
  | header _ line | instruction _ line | noBlock _ line =>
      rw [other] at line
      cases line

theorem fault_iff_of_header {address label : List Char}
    (short : Text.byteLength characters < 65536)
    (header : lineOf characters = .header address label) :
    Fault above characters error ↔
      2 ^ 64 ≤ Text.numeralValue 16 address ∧
        error = .address (above.length + 1) .header (String.ofList address) := by
  constructor
  · intro fault
    cases fault with
    | long long => omega
    | header _ line outOfRange =>
        rw [header] at line
        cases line
        exact ⟨outOfRange, rfl⟩
    | instruction _ line | noBlock _ line =>
        rw [header] at line
        cases line
  · rintro ⟨outOfRange, rfl⟩
    exact .header short header outOfRange

theorem fault_iff_of_instruction {address mnemonic operands : List Char}
    {encoded : Encoded} (short : Text.byteLength characters < 65536)
    (instruction : lineOf characters = .instruction address encoded mnemonic operands) :
    Fault above characters error ↔
      (2 ^ 64 ≤ Text.numeralValue 16 address ∧
        error = .address (above.length + 1) .instruction (String.ofList address)) ∨
      (Text.numeralValue 16 address < 2 ^ 64 ∧
        (∀ line ∈ above, (lineOf line).isHeader = false) ∧
        error = .noBlock (above.length + 1)) := by
  constructor
  · intro fault
    cases fault with
    | long long => omega
    | header _ line =>
        rw [instruction] at line
        cases line
    | instruction _ line outOfRange =>
        rw [instruction] at line
        cases line
        exact .inl ⟨outOfRange, rfl⟩
    | noBlock _ line inRange noHeader =>
        rw [instruction] at line
        cases line
        exact .inr ⟨inRange, noHeader, rfl⟩
  · rintro (⟨outOfRange, rfl⟩ | ⟨inRange, noHeader, rfl⟩)
    · exact .instruction short instruction outOfRange
    · exact .noBlock short instruction inRange noHeader

end

/-! ## Lines without a fault -/

theorem clear_nil (above : List (List Char)) : Clear above [] := by
  intro before line after split
  simp at split

theorem clear_cons_iff {above rest : List (List Char)} {characters : List Char} :
    Clear above (characters :: rest) ↔
      (∀ error, ¬ Fault above characters error) ∧ Clear (above ++ [characters]) rest := by
  constructor
  · intro clear
    refine ⟨fun error fault => ?_, fun before line after split error fault => ?_⟩
    · exact clear [] characters rest rfl error (by simpa using fault)
    · exact clear (characters :: before) line after (by rw [split]; rfl) error
        (by simpa using fault)
  · rintro ⟨headClear, restClear⟩ before line after split error fault
    cases before with
    | nil =>
        cases split
        exact headClear error (by simpa using fault)
    | cons first before =>
        cases split
        exact restClear before line after rfl error (by simpa using fault)

/-! ## Reading up to the first fault -/

/-- A block has begun exactly when a header stands above. -/
def Begun (above : List (List Char)) (block : Option Block) : Prop :=
  block = none ↔ ∀ line ∈ above, (lineOf line).isHeader = false

theorem begun_append_of_header {above : List (List Char)} {characters : List Char}
    (header : (lineOf characters).isHeader = true) (block : Block) :
    Begun (above ++ [characters]) (some block) := by
  constructor
  · intro impossible
    cases impossible
  · intro noHeader
    rw [noHeader characters (by simp)] at header
    cases header

theorem begun_append_of_not_header {above : List (List Char)} {characters : List Char}
    {block next : Option Block} (begun : Begun above block)
    (noHeader : (lineOf characters).isHeader = false)
    (same : next = none ↔ block = none) : Begun (above ++ [characters]) next := by
  rw [Begun] at begun ⊢
  rw [same, begun]
  simp [or_imp, forall_and, noHeader]

theorem map_append_eq_error_iff (result : Except Error (List Block))
    (finished : List Block) {error : Error} :
    result.map (finished ++ ·) = .error error ↔ result = .error error := by
  cases result <;> simp [Except.map]

/-- One line either is at fault, which ends the reading, or leaves every fault to
the lines below it. -/
theorem readBlocks_cons (order : ByteOrder) {above : List (List Char)}
    {block : Option Block} (begun : Begun above block) (characters : List Char)
    (rest : List (List Char)) :
    (∃ error, readBlocks order (above.length + 1) block (characters :: rest) = .error error ∧
      ∀ other, Fault above characters other ↔ other = error) ∨
    ∃ next, Begun (above ++ [characters]) next ∧
      (∀ error, readBlocks order (above.length + 1) block (characters :: rest) =
          .error error ↔
        readBlocks order (above.length + 1 + 1) next rest = .error error) ∧
      ∀ other, ¬ Fault above characters other := by
  have reading := reading_readItem order (above.length + 1) characters
  rw [readBlocks]
  generalize readItem order (above.length + 1) characters = result at reading
  cases reading with
  | long long => exact .inl ⟨_, rfl, fun other => fault_iff_of_long long⟩
  | startOutOfRange short header outOfRange =>
      refine .inl ⟨_, rfl, fun other => ?_⟩
      rw [fault_iff_of_header short header]
      exact and_iff_right outOfRange
  | entryOutOfRange short instruction outOfRange =>
      refine .inl ⟨_, rfl, fun other => ?_⟩
      rw [fault_iff_of_instruction short instruction]
      have notInRange := Nat.not_lt.mpr outOfRange
      exact ⟨fun fault => fault.elim And.right fun fault => absurd fault.1 notInRange,
        fun same => .inl ⟨outOfRange, same⟩⟩
  | nothing short other =>
      have plain : (lineOf characters).isHeader = false := by rw [other]; rfl
      exact .inr ⟨block, begun_append_of_not_header begun plain Iff.rfl,
        fun _ => Iff.rfl, fun _ => not_fault_of_other short other⟩
  | @start address label short header inRange =>
      have opens : (lineOf characters).isHeader = true := by rw [header]; rfl
      refine .inr ⟨_, begun_append_of_header opens
        ⟨Text.numeralValue 16 address, String.ofList label, []⟩, fun error => ?_,
        fun other fault => ?_⟩
      · exact map_append_eq_error_iff _ _
      · exact absurd ((fault_iff_of_header short header).mp fault).1
          (Nat.not_le.mpr inRange)
  | entry short instruction inRange makes =>
      have plain := Line.isHeader_of_entryAt? makes
      cases block with
      | none =>
          refine .inl ⟨_, rfl, fun other => ?_⟩
          rw [fault_iff_of_instruction short instruction]
          have noHeader := begun.mp rfl
          have notOutOfRange := Nat.not_le.mpr inRange
          exact ⟨fun fault => fault.elim (fun fault => absurd fault.1 notOutOfRange)
            fun fault => fault.2.2, fun same => .inr ⟨inRange, noHeader, same⟩⟩
      | some block =>
          refine .inr ⟨_, begun_append_of_not_header begun plain (by simp),
            fun _ => Iff.rfl, fun other fault => ?_⟩
          rcases (fault_iff_of_instruction short instruction).mp fault with
            ⟨outOfRange, _⟩ | ⟨_, noHeader, _⟩
          · exact absurd outOfRange (Nat.not_le.mpr inRange)
          · cases begun.mpr noHeader

theorem readBlocks_eq_error_iff {order : ByteOrder} {above lines : List (List Char)}
    {block : Option Block} (begun : Begun above block) (error : Error) :
    readBlocks order (above.length + 1) block lines = .error error ↔
      ∃ before line after, lines = before ++ line :: after ∧
        Clear above before ∧ Fault (above ++ before) line error := by
  induction lines generalizing above block with
  | nil => simp [readBlocks]
  | cons characters rest induction =>
      rcases readBlocks_cons order begun characters rest with
        ⟨found, result, faults⟩ | ⟨next, nextBegun, result, noFault⟩
      · rw [result, Except.error.injEq]
        constructor
        · rintro rfl
          refine ⟨[], characters, rest, rfl, clear_nil above, ?_⟩
          rw [List.append_nil]
          exact (faults found).mpr rfl
        · rintro ⟨before, line, after, split, clear, fault⟩
          cases before with
          | nil =>
              cases split
              rw [List.append_nil] at fault
              exact ((faults error).mp fault).symm
          | cons first before =>
              cases split
              exact absurd ((faults found).mpr rfl) ((clear_cons_iff.mp clear).1 found)
      · have restResult := induction nextBegun
        rw [List.length_append, List.length_singleton] at restResult
        rw [result, restResult]
        constructor
        · rintro ⟨before, line, after, rfl, clear, fault⟩
          exact ⟨characters :: before, line, after, rfl,
            clear_cons_iff.mpr ⟨noFault, clear⟩, by simpa using fault⟩
        · rintro ⟨before, line, after, split, clear, fault⟩
          cases before with
          | nil =>
              cases split
              exact absurd (by simpa using fault) (noFault error)
          | cons first before =>
              cases split
              exact ⟨before, line, after, rfl, (clear_cons_iff.mp clear).2,
                by simpa using fault⟩

/-- Among lines with a fault, one is the first. -/
theorem exists_first_fault {above before after : List (List Char)}
    {line : List Char} {error : Error} (fault : Fault (above ++ before) line error) :
    ∃ earlier first later found, before ++ line :: after = earlier ++ first :: later ∧
      Clear above earlier ∧ Fault (above ++ earlier) first found := by
  induction before generalizing above with
  | nil => exact ⟨[], line, after, error, rfl, clear_nil above, fault⟩
  | cons characters rest induction =>
      by_cases faulty : ∃ found, Fault above characters found
      · rcases faulty with ⟨found, headFault⟩
        exact ⟨[], characters, rest ++ line :: after, found, rfl, clear_nil above,
          by simpa using headFault⟩
      · have noFault := not_exists.mp faulty
        have below : Fault (above ++ [characters] ++ rest) line error := by
          simpa using fault
        rcases induction below with
          ⟨earlier, first, later, found, split, clear, firstFault⟩
        exact ⟨characters :: earlier, first, later, found, by rw [List.cons_append, split]; rfl,
          clear_cons_iff.mpr ⟨noFault, clear⟩, by simpa using firstFault⟩

/-! ## The texts of errors -/

theorem Error.message_address (number : Nat) (kind : LineKind) (digits : String) :
    (Error.address number kind digits).message =
      "error parsing line " ++ Text.decimal number ++ (": invalid " ++
        (kind.addressName ++ (": strconv.ParseUint: parsing " ++
          (Text.quote digits ++ ": value out of range")))) := by
  dsimp only [Error.message]
  rw [String.append_assoc, String.append_assoc, String.append_assoc, String.append_assoc]

theorem Fault.message_number {above : List (List Char)} {line : List Char} {error : Error}
    (fault : Fault above line error) :
    error = .longLine ∨
      (∃ complaint, error.message =
        "error parsing line " ++ Text.decimal (above.length + 1) ++ complaint) ∨
      error.message =
        "invalid listing: instruction encountered before segment definition at line " ++
          Text.decimal (above.length + 1) := by
  cases fault with
  | long => exact .inl rfl
  | header | instruction => exact .inr (.inl ⟨_, Error.message_address _ _ _⟩)
  | noBlock => exact .inr (.inr rfl)

theorem readAddress_replicate_zero_append {digits : List Char}
    (inRange : Text.numeralValue 16 digits < 2 ^ 64) (number zeros : Nat)
    (kind : LineKind) :
    readAddress number kind (List.replicate zeros '0' ++ digits) =
      .ok (Text.numeralValue 16 digits) := by
  have value := Text.numeralValue_replicate_zero_append 16 zeros digits
  rw [readAddress_of_lt (value ▸ inRange), value]

/-- The error is the one of the first line at fault, whatever stands below it;
without such a line there is none. Errors of lines name the line, and leading
zeros put no address out of range. -/
theorem read_eq_error_iff (order : ByteOrder) (text : String) :
    (∀ error, read order text = .error error ↔
      ∃ above line below, Text.lines text.toList = above ++ line :: below ∧
        Clear [] above ∧ Fault above line error) ∧
    ((∃ error, read order text = .error error) ↔
      ∃ above line below error, Text.lines text.toList = above ++ line :: below ∧
        Fault above line error) ∧
    (∀ above line error, Fault above line error →
      error = .longLine ∨
        (∃ complaint, error.message =
          "error parsing line " ++ Text.decimal (above.length + 1) ++ complaint) ∨
        error.message =
          "invalid listing: instruction encountered before segment definition at line " ++
            Text.decimal (above.length + 1)) ∧
    ∀ number zeros kind digits, Text.numeralValue 16 digits < 2 ^ 64 →
      readAddress number kind (List.replicate zeros '0' ++ digits) =
        .ok (Text.numeralValue 16 digits) := by
  have begun : Begun [] none := by simp [Begun]
  have first : ∀ error, read order text = .error error ↔
      ∃ above line below, Text.lines text.toList = above ++ line :: below ∧
        Clear [] above ∧ Fault above line error :=
    fun error => readBlocks_eq_error_iff begun error
  refine ⟨first, ⟨?_, ?_⟩, fun _ _ _ => Fault.message_number,
    fun number zeros kind _ inRange =>
      readAddress_replicate_zero_append inRange number zeros kind⟩
  · rintro ⟨error, failure⟩
    rcases (first error).mp failure with ⟨above, line, below, split, _, fault⟩
    exact ⟨above, line, below, error, split, fault⟩
  · rintro ⟨above, line, below, error, split, fault⟩
    rcases exists_first_fault (show Fault ([] ++ above) line error from fault) with
      ⟨earlier, firstLine, later, found, same, clear, firstFault⟩
    exact ⟨found, (first found).mpr
      ⟨earlier, firstLine, later, split.trans same, clear, firstFault⟩⟩

/-- An address out of range is reported before the missing header. -/
example : read .bigEndian "\n10000000000000000: 00000000 nop\n1: 00000000 nop" =
    .error (.address 2 .instruction "10000000000000000") := by
  decide +kernel

end MipsGloss.Listing
