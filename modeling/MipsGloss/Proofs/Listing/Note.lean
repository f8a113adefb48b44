import MipsGloss.Proofs.Listing.Entry
import MipsGloss.Proofs.Listing.Grammar

namespace MipsGloss.Listing

/-! Notes behind operands. A symbol behind an instruction is dropped without a trace,
unless its name holds a character that starts a comment: comments are cut off first, so
that the front half of such a symbol is taken for an operand. -/

/-! ## Comments -/

theorem cutComment_eq_self {characters : List Char}
    (uncommented : ∀ character ∈ characters, isCommentStart character = false) :
    cutComment characters = characters := by
  apply List.takeWhile_eq_self_iff.mpr
  intro character member
  simp [uncommented character member]

theorem cutComment_append {front : List Char} {mark : Char}
    (uncommented : ∀ character ∈ front, isCommentStart character = false)
    (starts : isCommentStart mark = true) (rest : List Char) :
    cutComment (front ++ mark :: rest) = front := by
  apply Text.takeWhile_append_of_stops
  · intro character member
    simp [uncommented character member]
  · apply Text.stops_cons
    simp [starts]

theorem exists_comment {characters : List Char}
    (commented : ¬ ∀ character ∈ characters, isCommentStart character = false) :
    ∃ front mark rest, characters = front ++ mark :: rest ∧
      (∀ character ∈ front, isCommentStart character = false) ∧ isCommentStart mark = true := by
  induction characters with
  | nil => exact absurd (by simp) commented
  | cons character rest induction =>
      cases starts : isCommentStart character with
      | true => exact ⟨[], character, rest, rfl, by simp, starts⟩
      | false =>
          rcases induction (by simpa [starts] using commented) with
            ⟨front, mark, behind, whole, uncommented, marked⟩
          refine ⟨character :: front, mark, behind, by rw [whole]; rfl, ?_, marked⟩
          simpa [starts] using uncommented

/-! ## Symbols -/

/-- Behind the first bracket that opens, none closes. -/
def Symbolless (characters : List Char) : Prop :=
  '>' ∉ characters.dropWhile (· != '<')

theorem symbolless_append {front name : List Char} (noOpening : '<' ∉ front)
    (noClosing : '>' ∉ name) : Symbolless (front ++ '<' :: name) := by
  rw [Symbolless, Text.dropWhile_append_of_stops (Text.bne_of_not_mem noOpening)
    (Text.stops_cons (by decide) name)]
  simp [noClosing]

theorem symbolless_of_not_mem {characters : List Char} (noOpening : '<' ∉ characters) :
    Symbolless characters := by
  rw [Symbolless, List.dropWhile_eq_nil_iff.mpr (Text.bne_of_not_mem noOpening)]
  exact List.not_mem_nil

theorem Symbolless.of_cons {character : Char} {rest : List Char}
    (symbolless : Symbolless (character :: rest)) : Symbolless rest := by
  by_cases opening : character = '<'
  · rw [Symbolless, opening, List.dropWhile_cons_of_neg (by decide)] at symbolless
    intro closing
    apply symbolless
    exact List.mem_cons_of_mem _ ((List.dropWhile_suffix _).mem closing)
  · rwa [Symbolless, List.dropWhile_cons_of_pos (by simpa using opening)] at symbolless

theorem Symbolless.dropWhile {characters : List Char} (symbolless : Symbolless characters)
    (kind : Char → Bool) : Symbolless (characters.dropWhile kind) := by
  induction characters with
  | nil => exact symbolless
  | cons character rest induction =>
      by_cases ofKind : kind character = true
      · rw [List.dropWhile_cons_of_pos ofKind]
        exact induction symbolless.of_cons
      · rwa [List.dropWhile_cons_of_neg ofKind]

theorem Symbolless.afterSymbol?_eq_none {characters : List Char}
    (symbolless : Symbolless characters) : afterSymbol? characters = none := by
  unfold afterSymbol?
  split
  · next rest =>
      rw [Symbolless, List.dropWhile_cons_of_neg (by decide)] at symbolless
      have noClosing : '>' ∉ rest := fun member => symbolless (List.mem_cons_of_mem _ member)
      rw [List.dropWhile_eq_nil_iff.mpr (Text.bne_of_not_mem noClosing)]
  · rfl

theorem afterSymbol?_symbol {symbol : List Char} (inside : '>' ∉ symbol)
    (behind : List Char) : afterSymbol? ('<' :: (symbol ++ '>' :: behind)) = some behind := by
  have closes : (symbol ++ '>' :: behind).dropWhile (· != '>') = '>' :: behind :=
    Text.dropWhile_append_of_stops (Text.bne_of_not_mem inside)
      (Text.stops_cons (by decide) behind)
  simp only [afterSymbol?, closes]

theorem dropSymbols_nil : dropSymbols [] = [] := by
  rw [dropSymbols]
  rfl

theorem dropSymbols_of_symbol {characters behind : List Char}
    (symbol : afterSymbol? (characters.dropWhile Text.isGap) = some behind) :
    dropSymbols characters = dropSymbols behind := by
  rw [dropSymbols]
  split
  · next found =>
      rw [symbol] at found
      cases found
      rfl
  · next found =>
      rw [symbol] at found
      cases found

theorem dropSymbols_cons {character : Char} {rest : List Char}
    (noSymbol : afterSymbol? ((character :: rest).dropWhile Text.isGap) = none) :
    dropSymbols (character :: rest) = character :: dropSymbols rest := by
  rw [dropSymbols]
  split
  · next found =>
      rw [noSymbol] at found
      cases found
  · rfl

theorem Symbolless.dropSymbols_eq_self {characters : List Char}
    (symbolless : Symbolless characters) : dropSymbols characters = characters := by
  induction characters with
  | nil => exact dropSymbols_nil
  | cons character rest induction =>
      rw [dropSymbols_cons (symbolless.dropWhile Text.isGap).afterSymbol?_eq_none,
        induction symbolless.of_cons]

/-- Where ink stands in front of a symbol, the characters do not begin with it. -/
theorem afterSymbol?_of_ink {front : List Char} (noOpening : '<' ∉ front)
    (ink : ¬ ∀ character ∈ front, Text.isGap character = true) (behind : List Char) :
    afterSymbol? ((front ++ behind).dropWhile Text.isGap) = none := by
  cases left : front.dropWhile Text.isGap with
  | nil => exact absurd (List.dropWhile_eq_nil_iff.mp left) ink
  | cons first others =>
      have member : first ∈ front :=
        (List.dropWhile_suffix Text.isGap).mem (left ▸ List.mem_cons_self)
      have different : first ≠ '<' := by
        intro equal
        exact noOpening (equal ▸ member)
      rw [List.dropWhile_append, left]
      simp [afterSymbol?, different]

/-- The first symbol goes with the gap in front of it, and nothing else does. -/
theorem dropSymbols_append_symbol {front symbol : List Char} (noOpening : '<' ∉ front)
    (inside : '>' ∉ symbol) (behind : List Char) :
    ∃ kept gap, front = kept ++ gap ∧ (∀ character ∈ gap, Text.isGap character = true) ∧
      dropSymbols (front ++ '<' :: (symbol ++ '>' :: behind)) = kept ++ dropSymbols behind := by
  have opening : Text.Stops Text.isGap ('<' :: (symbol ++ '>' :: behind)) :=
    Text.stops_cons (by decide) _
  have atGap : ∀ gap, (∀ character ∈ gap, Text.isGap character = true) →
      dropSymbols (gap ++ '<' :: (symbol ++ '>' :: behind)) = dropSymbols behind := by
    intro gap gaps
    apply dropSymbols_of_symbol
    rw [Text.dropWhile_append_of_stops gaps opening]
    exact afterSymbol?_symbol inside behind
  induction front with
  | nil => exact ⟨[], [], rfl, by simp, atGap [] (by simp)⟩
  | cons character rest induction =>
      by_cases gaps : ∀ other ∈ character :: rest, Text.isGap other = true
      · exact ⟨[], character :: rest, rfl, gaps, atGap _ gaps⟩
      · have noSymbol := afterSymbol?_of_ink noOpening gaps ('<' :: (symbol ++ '>' :: behind))
        rw [List.cons_append] at noSymbol
        rcases induction fun member => noOpening (List.mem_cons_of_mem character member) with
          ⟨kept, gap, rfl, restGaps, dropped⟩
        refine ⟨character :: kept, gap, rfl, restGaps, ?_⟩
        rw [List.cons_append, dropSymbols_cons noSymbol, dropped, List.cons_append]

/-! ## Operands with one symbol behind them -/

/-- Operands without any mark that notes begin with. -/
def Unnoted (operands : List Char) : Prop :=
  ∀ character ∈ operands, character ≠ '<' ∧ isCommentStart character = false

theorem Unnoted.not_mem {operands : List Char} (unnoted : Unnoted operands) :
    '<' ∉ operands := fun member => (unnoted '<' member).1 rfl

theorem Unnoted.uncommented {operands : List Char} (unnoted : Unnoted operands) :
    ∀ character ∈ operands, isCommentStart character = false :=
  fun character member => (unnoted character member).2

theorem unnoted_of_isBlank {blanks : List Char}
    (blank : ∀ character ∈ blanks, Text.isBlank character = true) : Unnoted blanks := by
  have table : Text.blanks.all (fun character =>
      character != '<' && !isCommentStart character) = true := by decide
  intro character member
  simpa using List.all_eq_true.mp table character
    (List.contains_iff_mem.mp (blank character member))

theorem Unnoted.append {front back : List Char} (frontUnnoted : Unnoted front)
    (backUnnoted : Unnoted back) : Unnoted (front ++ back) := by
  intro character member
  rcases List.mem_append.mp member with member | member
  · exact frontUnnoted character member
  · exact backUnnoted character member

theorem Unnoted.dropWhile {operands : List Char} (unnoted : Unnoted operands)
    (kind : Char → Bool) : Unnoted (operands.dropWhile kind) :=
  fun character member => unnoted character ((List.dropWhile_suffix kind).mem member)

theorem Unnoted.of_dropWhile_isGap {characters : List Char}
    (unnoted : Unnoted (characters.dropWhile Text.isGap)) : Unnoted characters := by
  have gap : Unnoted (characters.takeWhile Text.isGap) := by
    apply unnoted_of_isBlank
    intro character member
    exact Text.isBlank_of_isGap (List.mem_takeWhile_imp member)
  have whole := gap.append unnoted
  rwa [List.takeWhile_append_dropWhile] at whole

theorem Unnoted.dropNotes_eq {operands : List Char} (unnoted : Unnoted operands) :
    dropNotes operands = Text.trimCharacters operands := by
  rw [dropNotes, cutComment_eq_self unnoted.uncommented,
    (symbolless_of_not_mem unnoted.not_mem).dropSymbols_eq_self]

theorem Unnoted.dropNotes_symbol {operands symbol : List Char} (unnoted : Unnoted operands)
    (inside : '>' ∉ symbol)
    (uncommented : ∀ character ∈ symbol, isCommentStart character = false) :
    dropNotes (operands ++ '<' :: (symbol ++ ['>'])) = Text.trimCharacters operands := by
  have whole : cutComment (operands ++ '<' :: (symbol ++ ['>'])) =
      operands ++ '<' :: (symbol ++ ['>']) := by
    apply cutComment_eq_self
    simp only [List.forall_mem_append, List.forall_mem_cons]
    exact ⟨unnoted.uncommented, by decide, uncommented, by decide, by simp⟩
  rcases dropSymbols_append_symbol unnoted.not_mem inside [] with
    ⟨kept, gap, split, gaps, dropped⟩
  have blanks : ∀ character ∈ gap, Text.isBlank character = true :=
    fun character member => Text.isBlank_of_isGap (gaps character member)
  rw [dropNotes, whole, dropped, dropSymbols_nil, List.append_nil, split,
    Text.trimCharacters_append blanks]

/-- A comment that starts in a symbol leaves the symbol open. -/
theorem Unnoted.dropNotes_broken {operands name : List Char} {mark : Char}
    (unnoted : Unnoted operands) (inside : '>' ∉ name)
    (uncommented : ∀ character ∈ name, isCommentStart character = false)
    (starts : isCommentStart mark = true) (rest : List Char) :
    dropNotes (operands ++ '<' :: (name ++ mark :: rest)) =
      Text.trimCharacters (operands ++ '<' :: name) := by
  have plain : ∀ character ∈ operands ++ '<' :: name, isCommentStart character = false := by
    simp only [List.forall_mem_append, List.forall_mem_cons]
    exact ⟨unnoted.uncommented, by decide, uncommented⟩
  have cut := cutComment_append plain starts rest
  rw [List.append_assoc, List.cons_append] at cut
  rw [dropNotes, cut, (symbolless_append unnoted.not_mem inside).dropSymbols_eq_self]

theorem mem_of_split_eq {characters others : List Char} {character : Char}
    (kept : ∀ depth, Operand.isSeparator depth character = false)
    (same : Operand.split (String.ofList characters) = Operand.split (String.ofList others))
    (member : character ∈ characters) : character ∈ others := by
  have equal : Operand.splitCharacters characters = Operand.splitCharacters others := by
    rw [Operand.split, Operand.split, String.toList_ofList, String.toList_ofList] at same
    exact (List.map_inj_right fun _ _ => String.ofList_inj.mp).mp same
  rw [← Operand.mem_flatten_splitCharacters_iff kept, equal,
    Operand.mem_flatten_splitCharacters_iff kept] at member
  exact member

/-- The operands are the same with a symbol behind them exactly when no comment starts in
its name. -/
theorem Unnoted.split_symbol_iff {operands symbol : List Char} (unnoted : Unnoted operands)
    (inside : '>' ∉ symbol) :
    Operand.split (String.ofList (dropNotes (operands ++ '<' :: (symbol ++ ['>'])))) =
        Operand.split (String.ofList (dropNotes operands)) ↔
      ∀ character ∈ symbol, isCommentStart character = false := by
  constructor
  · intro same
    by_contra commented
    rcases exists_comment commented with ⟨name, mark, rest, rfl, uncommented, starts⟩
    have nameInside : '>' ∉ name := fun member => inside (List.mem_append_left _ member)
    have broken := unnoted.dropNotes_broken nameInside uncommented starts (rest ++ ['>'])
    rw [List.append_assoc, List.cons_append, broken, unnoted.dropNotes_eq] at same
    -- The opening bracket belongs to an operand now, and to none without the symbol.
    have ink : Text.isBlank '<' = false := by decide
    have kept : ∀ depth, Operand.isSeparator depth '<' = false := by
      intro depth
      simp [Operand.isSeparator, ink]
    have member := mem_of_split_eq kept same
      ((Text.mem_trimCharacters_iff ink _).mpr (by simp))
    rw [Text.mem_trimCharacters_iff ink] at member
    exact unnoted.not_mem member
  · intro uncommented
    rw [unnoted.dropNotes_symbol inside uncommented, unnoted.dropNotes_eq]

/-! ## Instructions with a symbol behind them -/

/-- A line with a symbol noted at its end. -/
def noted (line symbol : List Char) : List Char :=
  line ++ ' ' :: '<' :: (symbol ++ ['>'])

theorem isMnemonicCharacter_of_isBlank {character : Char}
    (blank : Text.isBlank character = true) : isMnemonicCharacter character = false := by
  apply Bool.eq_false_iff.mpr
  intro part
  rw [(isBlank_of_isMnemonicCharacter part).1] at blank
  cases blank

/-- A mnemonic does not grow over a character that can stand in none. -/
theorem IsLongestMnemonic.append {mnemonic rest behind : List Char}
    (longest : IsLongestMnemonic mnemonic rest)
    (stops : Text.Stops isMnemonicCharacter behind) :
    IsLongestMnemonic mnemonic (rest ++ behind) := by
  refine ⟨longest.1, fun other spells begins => longest.2 other spells ?_⟩
  rw [← List.append_assoc] at begins
  rcases List.prefix_or_prefix_of_prefix begins (List.prefix_append _ _) with
    within | ⟨extra, joined⟩
  · exact within
  cases extra with
  | nil =>
      have whole : mnemonic ++ rest = other := by simpa only [List.append_nil] using joined
      exact whole ▸ List.prefix_rfl
  | cons first others =>
      -- The first character that is taken from behind the line would be in the mnemonic.
      exfalso
      rw [← joined, List.prefix_append_right_inj] at begins
      have taken : isMnemonicCharacter first = true :=
        (isMnemonic_of_spellsMnemonic spells).2 first (by simp [← joined])
      rcases begins with ⟨left, whole⟩
      rw [stops first (by rw [← whole]; rfl)] at taken
      cases taken

namespace InstructionLine

/-- The instruction with something written behind it. -/
def extend (instruction : InstructionLine) (behind : List Char)
    (stops : Text.Stops isMnemonicCharacter behind) : InstructionLine :=
  { instruction with
    rest := instruction.rest ++ behind
    longest := instruction.longest.append stops }

theorem characters_extend (instruction : InstructionLine) {behind : List Char}
    (stops : Text.Stops isMnemonicCharacter behind) :
    (instruction.extend behind stops).characters = instruction.characters ++ behind := by
  simp [characters, extend]

/-- What is written behind an instruction leaves what it contributes as it was when it
leaves the operands so, or when the address keeps the instruction from contributing. -/
theorem item_extend_iff (instruction : InstructionLine) {behind : List Char}
    (stops : Text.Stops isMnemonicCharacter behind) (order : ByteOrder) (number : Nat) :
    (instruction.extend behind stops).line.item order number =
        instruction.line.item order number ↔
      2 ^ 64 ≤ instruction.address.value ∨
        Operand.split (String.ofList
            (dropNotes ((instruction.rest ++ behind).dropWhile Text.isGap))) =
          Operand.split (String.ofList (dropNotes (instruction.rest.dropWhile Text.isGap))) := by
  have address : (instruction.extend behind stops).address = instruction.address := rfl
  rw [item_line, item_line, address]
  by_cases inRange : instruction.address.value < 2 ^ 64
  · have notOutOfRange := Nat.not_le.mpr inRange
    rw [if_pos inRange, if_pos inRange, or_iff_right notOutOfRange]
    simp [entryAt, extend]
  · rw [if_neg inRange, if_neg inRange]
    exact ⟨fun _ => .inl (Nat.le_of_not_lt inRange), fun _ => rfl⟩

theorem startsInk_append (instruction : InstructionLine) (behind : List Char) :
    Text.StartsInk (instruction.characters ++ behind) := by
  rcases instruction.address.exists_cons with ⟨first, others, written, digit⟩
  rw [characters, written]
  exact Text.stops_cons (Text.isBlank_of_isHexDigit digit) _

end InstructionLine

/-- A symbol at the end, with the blanks in front of it, extends the instruction. -/
theorem read_noted {line : List Char} (instruction : InstructionLine)
    (written : instruction.characters = Text.trimCharacters line) (symbol : List Char) :
    ∃ blanks, (∀ character ∈ blanks, Text.isBlank character = true) ∧
      ∃ stops : Text.Stops isMnemonicCharacter (blanks ++ '<' :: (symbol ++ ['>'])),
        Line.read (noted line symbol) = (instruction.extend _ stops).line := by
  rcases Text.exists_blanks_around line with ⟨before, after, blankBefore, blankAfter, whole⟩
  rw [← written] at whole
  have blanks : ∀ character ∈ after ++ [' '], Text.isBlank character = true := by
    intro character member
    rcases List.mem_append.mp member with member | member
    · exact blankAfter character member
    · rw [List.mem_singleton.mp member]
      decide
  have stops : Text.Stops isMnemonicCharacter (after ++ [' '] ++ '<' :: (symbol ++ ['>'])) := by
    cases after with
    | nil => exact Text.stops_cons (by decide) _
    | cons first others =>
        exact Text.stops_cons
          (isMnemonicCharacter_of_isBlank (blankAfter first List.mem_cons_self)) _
  refine ⟨after ++ [' '], blanks, stops, Line.read_of_instruction _ ?_⟩
  have ends : Text.EndsInk (instruction.characters ++
      (after ++ [' '] ++ '<' :: (symbol ++ ['>']))) := by
    have closed : instruction.characters ++ (after ++ [' '] ++ '<' :: (symbol ++ ['>'])) =
        instruction.characters ++ (after ++ [' '] ++ '<' :: symbol) ++ ['>'] := by simp
    rw [closed]
    apply Text.endsInk_append (by simp)
    intro character last
    cases last
    decide
  have blankBehind : ∀ character ∈ ([] : List Char), Text.isBlank character = true := by simp
  have between := Text.trimCharacters_between blankBefore blankBehind
    (instruction.startsInk_append _) ends
  rw [instruction.characters_extend, ← between, noted, whole]
  simp

/-- A symbol at the end of an instruction leaves it an instruction. It leaves everything
that the line contributes as it was, unless its name holds the start of a comment; only
an address that is out of range hides the difference then. -/
theorem item_noted_iff {line address mnemonic operands symbol : List Char} {encoded : Encoded}
    (recognised : Line.read line = .instruction address encoded mnemonic operands)
    (unnoted : Unnoted operands) (inside : '>' ∉ symbol) (order : ByteOrder) (number : Nat) :
    (∃ others,
      Line.read (noted line symbol) = .instruction address encoded mnemonic others) ∧
    ((Line.read (noted line symbol)).item order number = (Line.read line).item order number ↔
      2 ^ 64 ≤ Text.numeralValue 16 address ∨
        ∀ character ∈ symbol, isCommentStart character = false) := by
  rcases Line.exists_instruction recognised with ⟨instruction, written, parts⟩
  cases parts
  rcases read_noted instruction written symbol with ⟨blanks, blank, stops, reread⟩
  have opening : Text.Stops Text.isGap ('<' :: (symbol ++ ['>'])) :=
    Text.stops_cons (by decide) _
  have front : Unnoted ((instruction.rest ++ blanks).dropWhile Text.isGap) := by
    apply Unnoted.dropWhile
    exact unnoted.of_dropWhile_isGap.append (unnoted_of_isBlank blank)
  have same : dropNotes ((instruction.rest ++ blanks).dropWhile Text.isGap) =
      dropNotes (instruction.rest.dropWhile Text.isGap) := by
    rw [front.dropNotes_eq, unnoted.dropNotes_eq, Text.trimCharacters_dropWhile_isGap,
      Text.trimCharacters_append blank, Text.trimCharacters_dropWhile_isGap]
  refine ⟨⟨_, reread⟩, ?_⟩
  rw [reread, Line.read_of_instruction instruction written, instruction.item_extend_iff,
    ← List.append_assoc, Text.dropWhile_append_eq_append opening, ← same,
    front.split_symbol_iff inside]
  rfl

def callLine : List Char := "400000: 0411000f bal 400040\t".toList

theorem read_callLine : Line.read callLine =
    .instruction "400000".toList (.number "0411000f".toList) "bal".toList "400040".toList := by
  decide +kernel

theorem unnoted_call : Unnoted "400040".toList := by
  have table : "400040".toList.all fun character =>
      decide (character ≠ '<' ∧ isCommentStart character = false) := by decide
  intro character member
  exact of_decide_eq_true (List.all_eq_true.mp table character member)

/-- A name with blanks, commas, parentheses and an opening bracket of its own. -/
theorem item_noted_operator :
    Line.read callLine = .instruction "400000".toList (.number "0411000f".toList)
        "bal".toList "400040".toList ∧
      Unnoted "400040".toList ∧ '>' ∉ "operator<< (a, b".toList ∧
      (Line.read (noted callLine "operator<< (a, b".toList)).item .bigEndian 2 =
        (Line.read callLine).item .bigEndian 2 := by
  have inside : '>' ∉ "operator<< (a, b".toList := by decide
  have table : "operator<< (a, b".toList.any isCommentStart = false := by decide
  have uncommented : ∀ character ∈ "operator<< (a, b".toList,
      isCommentStart character = false := by
    intro character member
    exact eq_false_of_ne_true (List.any_eq_false.mp table character member)
  exact ⟨read_callLine, unnoted_call, inside,
    (item_noted_iff read_callLine unnoted_call inside .bigEndian 2).2.mpr (.inr uncommented)⟩

/-- A name with the start of a comment in it. -/
theorem item_noted_method :
    Line.read callLine = .instruction "400000".toList (.number "0411000f".toList)
        "bal".toList "400040".toList ∧
      Unnoted "400040".toList ∧ "String#length".toList ≠ [] ∧
      '>' ∉ "String#length".toList ∧ '\n' ∉ "String#length".toList ∧
      Line.read (noted callLine "String#length".toList) =
        .instruction "400000".toList (.number "0411000f".toList) "bal".toList
          "400040\t <String#length>".toList ∧
      (Line.read (noted callLine "String#length".toList)).item .bigEndian 2 ≠
        (Line.read callLine).item .bigEndian 2 := by
  refine ⟨read_callLine, unnoted_call, by decide, by decide, by decide, by decide +kernel, ?_⟩
  decide +kernel

end MipsGloss.Listing
