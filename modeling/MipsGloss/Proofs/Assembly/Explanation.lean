import Mathlib.Tactic.MkIffOfInductiveProp
import MipsGloss.Proofs.Assembly.Operand
import MipsGloss.Proofs.Assembly.Template

namespace MipsGloss

/-! Explanations of known operations. A sentence tells every operand that is recorded,
and it speaks of something missing exactly where a line has fewer operands than its
operation needs. -/

/-! ## Needed operands -/

/-- Operations by the number of operands that they need. -/
def neededTable : List (Nat × List String) :=
  [(0, ["syscall", "break", "nop", "rfe"]),
   (1, ["mfhi", "mflo", "mthi", "mtlo", "jr", "jalr", "j", "jal"]),
   (2, ["mult", "multu", "div", "divu", "teq", "tge", "tgeu", "tlt", "tltu", "tne", "lw", "sw",
      "lb", "lbu", "lh", "lhu", "sb", "sh", "lwl", "lwr", "swl", "swr", "ld", "sd", "blez",
      "bgtz", "bltz", "bgez", "bltzal", "bgezal", "lui", "li", "la", "move", "not", "neg",
      "negu", "mfc0", "mtc0", "mfc1", "mtc1", "mfc2", "mtc2", "cvt.s.w", "cvt.d.w", "cvt.w.s",
      "cvt.w.d"]),
   (3, ["add", "addu", "sub", "subu", "and", "or", "xor", "nor", "slt", "sltu", "mul", "mulo",
      "mulou", "rem", "remu", "sll", "srl", "sra", "sllv", "srlv", "srav", "rol", "ror", "addi",
      "addiu", "andi", "ori", "xori", "slti", "sltiu", "beq", "bne", "add.s", "sub.s", "mul.s",
      "div.s", "add.d", "sub.d", "mul.d", "div.d"])]

def neededOperands (operation : String) : Nat :=
  ((neededTable.find? (·.2.contains operation)).map (·.1)).getD 0

/-! ## Templates and layouts -/

namespace Source

/-- The operand that a value is taken from. -/
def index? : Source → Option Nat
  | .operand index => some index
  | .offset | .base => some 1
  | _ => none

def isAddress : Source → Bool
  | .offset | .base => true
  | _ => false

/-- Whether a value is there as soon as there are so many operands. -/
def isFilledBy (count : Nat) : Source → Bool
  | .operand index => index < count
  | .offset | .base | .constant _ => true
  | .funct | .absent => false

def isPlain : Source → Bool
  | .constant text => MipsGloss.isPlain text
  | _ => true

end Source

namespace Piece

def isPlain : Piece → Bool
  | .text content => MipsGloss.isPlain content
  | .slot _ => true
  | .slotOr _ otherwise => MipsGloss.isPlain otherwise

/-- Whether a piece has something to say as soon as there are so many operands. -/
def isFilledBy (layout : Layout) (count : Nat) : Piece → Bool
  | .slot source => (layout.lookup source).any (Source.isFilledBy count)
  | _ => true

/-- Whether a piece cannot do without the given operand. -/
def wants (layout : Layout) (index : Nat) : Piece → Bool
  | .slot source => layout.lookup source == some (.operand index)
  | _ => false

end Piece

/-! What is said of an operation without a template begins in one of three ways and ends
alike. -/

def fallbackOpenings : List (List Char) :=
  [['R', '-', 't', 'y', 'p', 'e', ' ', 'i'], ['I', '-', 't', 'y', 'p', 'e', ' ', 'a'],
   ['B', 'r', 'a', 'n', 'c', 'h', ' ', 'i']]

def Piece.opensUnlike : Piece → Bool
  | .text content => isPlain content && fallbackOpenings.all fun opening =>
      !((Text.byteCharacters content).take 8).isPrefixOf opening
  | _ => false

def Piece.closesUnlike : Piece → Bool
  | .text content => isPlain content && (Text.byteCharacters content).getLast?.any (· != 'n')
  | _ => false

/-- Whether a template cannot be taken for what is said without one. -/
def Template.isOwn (template : Template) : Bool :=
  template.head?.any Piece.opensUnlike || template.getLast?.any Piece.closesUnlike

theorem Template.render_fallback (record : Record) (category : Category) (operation : String) :
    (∃ opening ∈ fallbackOpenings,
      opening <+: (render record (Explanation.fallback category operation)).toList) ∧
    (render record (Explanation.fallback category operation)).toList.getLast? = some 'n' := by
  have sentence (start : String) (opens : start.toList.take 8 ∈ fallbackOpenings) :
      (∃ opening ∈ fallbackOpenings,
        opening <+: (render record [start, operation, " operation"]).toList) ∧
      (render record [start, operation, " operation"]).toList.getLast? = some 'n' := by
    have shape : (render record [start, operation, " operation"]).toList =
        start.toList ++ operation.toList ++ " operation".toList := by
      simp [toList_render, Piece.render]
    rw [shape]
    constructor
    · refine ⟨_, opens, (List.take_prefix 8 _).trans ?_⟩
      rw [List.append_assoc]
      exact List.prefix_append _ _
    · have closing : " operation".toList.getLast? = some 'n' := by decide
      rw [List.getLast?_append, closing, Option.some_or]
  cases category with
  | immediate => exact sentence "I-type arithmetic instruction: " (by decide +kernel)
  | branch => exact sentence "Branch instruction: " (by decide +kernel)
  | _ => exact sentence "R-type instruction: " (by decide +kernel)

theorem Template.render_ne_fallback {template : Template} (own : isOwn template = true)
    (record : Record) (category : Category) (operation : String) :
    render record template ≠ render record (Explanation.fallback category operation) := by
  intro same
  rcases render_fallback record category operation with ⟨⟨opening, member, opens⟩, closes⟩
  rw [← same, toList_render] at opens closes
  rw [isOwn, Bool.or_eq_true, Option.any_eq_true, Option.any_eq_true] at own
  rcases own with ⟨piece, first, unlike⟩ | ⟨piece, last, unlike⟩
  · cases piece with
    | text content =>
        rw [Piece.opensUnlike, Bool.and_eq_true, List.all_eq_true] at unlike
        have other := unlike.2 opening member
        rw [← toList_of_isPlain unlike.1, Bool.not_eq_true', ← Bool.not_eq_true,
          List.isPrefixOf_iff_prefix] at other
        rcases List.head?_eq_some_iff.mp first with ⟨rest, rfl⟩
        rw [List.flatMap_cons] at opens
        have lengths : ∀ opening ∈ fallbackOpenings, opening.length = 8 := by decide
        apply other
        apply List.prefix_of_prefix_length_le _ opens
        · rw [lengths opening member]
          exact List.length_take_le 8 _
        · exact (List.take_prefix 8 _).trans (List.prefix_append _ _)
    | _ => cases unlike
  · cases piece with
    | text content =>
        rw [Piece.closesUnlike, Bool.and_eq_true, Option.any_eq_true] at unlike
        rcases unlike with ⟨plain, character, ending, other⟩
        rw [← toList_of_isPlain plain] at ending
        rcases List.getLast?_eq_some_iff.mp last with ⟨front, rfl⟩
        rw [List.flatMap_append, List.flatMap_singleton, Piece.render, List.getLast?_append,
          ending, Option.some_or, Option.some.injEq] at closes
        simp [closes] at other
    | _ => cases unlike

/-- The operands that a line is known to have, when it is known whether there are
several. -/
def leastOperands (several : Bool) : Nat := if several then 2 else 0

/-- A template that goes with a layout. -/
@[mk_iff]
structure Suits (several : Bool) (needed : Nat) (layout : Layout) (template : Template) :
    Prop where
  own : Template.isOwn template = true
  apart : Template.isApart template = true
  plainPieces : ∀ piece ∈ template, piece.isPlain = true
  plainSources : ∀ entry ∈ layout, entry.2.isPlain = true
  single : ∀ entry ∈ layout, layout.lookup entry.1 = some entry.2
  declared : ∀ slot ∈ Template.slots template, slot ∈ layout.map Prod.fst
  uncoded : Slot.funct ∉ Template.slots template
  told : ∀ entry ∈ layout, entry.2.index?.isSome = true → entry.1 ∈ Template.slots template
  filled : ∀ piece ∈ template,
    piece.isFilledBy layout (max needed (leastOperands several)) = true
  wanting : needed ≤ leastOperands several ∨
    (needed ≤ 2 ∧ ∃ entry ∈ layout, entry.2.isAddress = true) ∨
    ∃ piece ∈ template, piece.wants layout (needed - 1) = true

instance (several : Bool) (needed : Nat) (layout : Layout) (template : Template) :
    Decidable (Suits several needed layout template) :=
  decidable_of_iff' _ (suits_iff several needed layout template)

theorem Explanation.exists_suits {operation : String} {category : Category}
    (found : Category.ofOperation? operation = some category) (count : Nat) :
    ∃ template, template? category operation = some template ∧
      Suits (decide (2 ≤ count)) (neededOperands operation)
        (Layout.ofOperation category operation count) template := by
  have rows : ∀ pair ∈ Category.table, ∀ several : Bool,
      (template? pair.2 pair.1).any (fun template =>
        decide (Suits several (neededOperands pair.1)
          (Layout.ofOperation pair.2 pair.1 (if several then 2 else 1)) template)) = true := by
    decide +kernel
  have row := rows (operation, category) (Category.mem_table found) (decide (2 ≤ count))
  rw [Option.any_eq_true] at row
  simp only [decide_eq_true_eq] at row
  rw [Layout.ofOperation_count]
  exact row

/-! ## Values of slots -/

/-- Addresses are for memory operations. -/
theorem Layout.isAddress_eq_false {category : Category} (plain : category ≠ .memory)
    (operation : String) (count : Nat) :
    ∀ entry ∈ ofOperation category operation count, entry.2.isAddress = false := by
  cases category with
  | memory => exact absurd rfl plain
  | highLow | jumpTrap | branch =>
      rw [ofOperation]
      split_ifs <;> simp [registers, first, second, third, zero, Source.isAddress]
  | _ => simp [ofOperation, registers, first, second, third, zero, Source.isAddress]

theorem Layout.source_eq_funct_iff {category : Category} {operation : String} {count : Nat} :
    ∀ entry ∈ ofOperation category operation count, entry.2 = .funct ↔ entry.1 = .funct := by
  cases category with
  | highLow | jumpTrap | branch =>
      rw [ofOperation]
      split_ifs <;> simp [registers, first, second, third, zero]
  | _ => simp [ofOperation, registers, first, second, third, zero]

namespace Gloss

variable {functs : FunctLookup} {statement : Statement} {category : Category}

/-- A statement that is not complained about has the address that its layout asks for. -/
theorem exists_address (content : complaint? category statement = none)
    {entry : Slot × Source}
    (member : entry ∈ Layout.ofOperation category statement.operation statement.operands.length)
    (isAddress : entry.2.isAddress = true) :
    ∃ address, Address.ofOperands statement.operands = .ok address := by
  by_cases memory : category = .memory
  · subst memory
    rw [complaint?] at content
    cases parsed : Address.ofOperands statement.operands with
    | ok address => exact ⟨address, rfl⟩
    | error fault => simp [parsed] at content
  · rw [Layout.isAddress_eq_false memory _ _ entry member] at isAddress
    cases isAddress

end Gloss

namespace Address

variable {operands : List String} {address : Address}

/-- The parts of an address occur in the operand that it is read out of. -/
theorem occurs_of_ofOperands (parsed : (ofOperands operands).toOption = some address) :
    ∃ operand, operands[1]? = some operand ∧ Text.Occurs address.offset operand ∧
      Text.Occurs address.base operand := by
  have success : ofOperands operands = .ok address := by
    cases result : ofOperands operands with
    | error fault =>
        rw [result] at parsed
        cases parsed
    | ok found =>
        rw [result] at parsed
        cases parsed
        rfl
  rcases ofOperands_eq_ok success with ⟨operand, second, read⟩
  have whole := toList_of_ofOperand read
  refine ⟨operand, second, ?_, ?_⟩
  · rw [Text.Occurs, whole]
    exact (List.prefix_append _ _).isInfix
  · rw [Text.Occurs, whole]
    exact ⟨address.offset.toList ++ ['('], [')'], by simp⟩

end Address

namespace Source

variable {functs : FunctLookup} {operation : String} {operands : List String}

/-- A value that is taken from an operand occurs in it. -/
theorem occurs_of_index? {source : Source} {index : Nat} {value : String}
    (taken : source.index? = some index)
    (found : source.value functs operation operands = some value) :
    ∃ operand, operands[index]? = some operand ∧ Text.Occurs value operand := by
  cases source with
  | operand position =>
      cases taken
      exact ⟨value, found, List.infix_rfl⟩
  | offset =>
      cases taken
      rcases Option.map_eq_some_iff.mp found with ⟨address, parsed, rfl⟩
      rcases Address.occurs_of_ofOperands parsed with
        ⟨operand, second, offset, _⟩
      exact ⟨operand, second, offset⟩
  | base =>
      cases taken
      rcases Option.map_eq_some_iff.mp found with ⟨address, parsed, rfl⟩
      rcases Address.occurs_of_ofOperands parsed with
        ⟨operand, second, _, base⟩
      exact ⟨operand, second, base⟩
  | _ => cases taken

/-- The text of an empty slot comes in with an operand or a function code. -/
theorem not_occurs_value {source : Source} {value : String} (plain : source.isPlain = true)
    (uncoded : source ≠ .funct)
    (clean : ∀ operand ∈ operands, ¬ Text.Occurs emptySlotText operand)
    (found : source.value functs operation operands = some value) :
    ¬ Text.Occurs emptySlotText value := by
  cases taken : source.index? with
  | some index =>
      rcases occurs_of_index? taken found with ⟨operand, member, inside⟩
      exact fun occurs => clean operand (List.mem_of_getElem? member) (occurs.trans inside)
  | none =>
      cases source with
      | constant text =>
          cases found
          exact not_occurs_of_isPlain plain
      | funct => exact absurd rfl uncoded
      | absent => cases found
      | _ => cases taken

theorem exists_value {source : Source} {count : Nat} (filled : source.isFilledBy count = true)
    (enough : count ≤ operands.length)
    (readable : source.isAddress = true → ∃ address, Address.ofOperands operands = .ok address) :
    ∃ value, source.value functs operation operands = some value := by
  cases source with
  | operand index =>
      rw [isFilledBy, decide_eq_true_eq] at filled
      exact ⟨_, List.getElem?_eq_getElem (Nat.lt_of_lt_of_le filled enough)⟩
  | offset =>
      rcases readable rfl with ⟨address, parsed⟩
      exact ⟨address.offset, by rw [value, parsed]; rfl⟩
  | base =>
      rcases readable rfl with ⟨address, parsed⟩
      exact ⟨address.base, by rw [value, parsed]; rfl⟩
  | constant text => exact ⟨text, rfl⟩
  | _ => cases filled

end Source

namespace Gloss

variable {functs : FunctLookup} {statement : Statement} {category : Category}
  {template : Template}

def layoutOf (category : Category) (statement : Statement) : Layout :=
  Layout.ofOperation category statement.operation statement.operands.length

def recordOf (functs : FunctLookup) (category : Category) (statement : Statement) : Record :=
  (layoutOf category statement).fill functs statement.operation statement.operands

/-- A template that goes with the layout of a statement. -/
def Told (category : Category) (statement : Statement) (template : Template) : Prop :=
  Suits (decide (2 ≤ statement.operands.length)) (neededOperands statement.operation)
    (layoutOf category statement) template

theorem not_occurs_get (told : Told category statement template)
    (clean : ∀ operand ∈ statement.operands, ¬ Text.Occurs emptySlotText operand)
    {slot : Slot} {value : String} (looks : slot ∈ Template.slots template)
    (found : (recordOf functs category statement).get slot = some value) :
    ¬ Text.Occurs emptySlotText value := by
  rw [recordOf, Record.get_fill] at found
  rcases Option.bind_eq_some_iff.mp found with ⟨source, selected, value⟩
  have member := mem_of_lookup selected
  refine Source.not_occurs_value (told.plainSources _ member) ?_ clean value
  intro coded
  have funct := (Layout.source_eq_funct_iff _ member).mp coded
  exact told.uncoded (funct ▸ looks)

/-- Where a line has the operands that its operation needs, no piece brings in the text of
an empty slot. -/
theorem not_occurs_piece (told : Told category statement template)
    (content : complaint? category statement = none)
    (clean : ∀ operand ∈ statement.operands, ¬ Text.Occurs emptySlotText operand)
    (enough : neededOperands statement.operation ≤ statement.operands.length)
    {piece : Piece} (member : piece ∈ template) :
    ¬ Text.Occurs emptySlotText (piece.render (recordOf functs category statement)) := by
  have plain := told.plainPieces piece member
  have values : ∀ slot value, piece.slot? = some slot →
      (recordOf functs category statement).get slot = some value →
      ¬ Text.Occurs emptySlotText value := fun slot value looks =>
    not_occurs_get told clean (List.mem_filterMap.mpr ⟨piece, member, looks⟩)
  cases piece with
  | text content => exact not_occurs_of_isPlain plain
  | slot source =>
      have filled := told.filled _ member
      rw [Piece.isFilledBy, Option.any_eq_true] at filled
      rcases filled with ⟨origin, selected, filled⟩
      have count : max (neededOperands statement.operation)
          (leastOperands (decide (2 ≤ statement.operands.length))) ≤
            statement.operands.length := by
        rw [leastOperands]
        split <;> grind
      rcases Source.exists_value filled count
        (exists_address content (mem_of_lookup selected)) with ⟨value, found⟩
      have stored : (recordOf functs category statement).get source = some value := by
        rw [recordOf, Record.get_fill, selected]
        exact found
      rw [Piece.render, stored]
      exact values source value rfl stored
  | slotOr source otherwise =>
      rw [Piece.render]
      cases stored : (recordOf functs category statement).get source with
      | none => exact not_occurs_of_isPlain plain
      | some value =>
          dsimp only
          split
          · exact not_occurs_of_isPlain plain
          · exact values source value rfl stored

/-- A sentence speaks of something missing exactly where operands are missing. -/
theorem occurs_emptySlotText_iff (told : Told category statement template)
    (content : complaint? category statement = none)
    (clean : ∀ operand ∈ statement.operands, ¬ Text.Occurs emptySlotText operand) :
    Text.Occurs emptySlotText (Template.render (recordOf functs category statement) template) ↔
      statement.operands.length < neededOperands statement.operation := by
  constructor
  · intro occurs
    rcases Template.exists_piece_of_occurs told.apart occurs with ⟨piece, member, inside⟩
    by_contra enough
    exact not_occurs_piece told content clean (Nat.le_of_not_lt enough) member inside
  · intro fewer
    rcases told.wanting with few | ⟨two, entry, member, isAddress⟩ | ⟨piece, member, wants⟩
    · rw [leastOperands] at few
      split at few <;> grind
    · rcases exists_address content member isAddress with ⟨address, parsed⟩
      rcases Address.ofOperands_eq_ok parsed with ⟨operand, second, _⟩
      rcases List.getElem?_eq_some_iff.mp second with ⟨present, _⟩
      omega
    · cases piece with
      | slot source =>
          rw [Piece.wants, beq_iff_eq] at wants
          have empty : (recordOf functs category statement).get source = none := by
            rw [recordOf, Record.get_fill, wants]
            exact List.getElem?_eq_none (by omega)
          have rendered : Piece.render (recordOf functs category statement) (.slot source) =
              emptySlotText := by
            rw [Piece.render, empty]
            rfl
          exact rendered ▸ Template.occurs_render member
      | _ => cases wants

theorem get_recordOf (told : Told category statement template) {slot : Slot} {source : Source}
    (member : (slot, source) ∈ layoutOf category statement) :
    (recordOf functs category statement).get slot =
      source.value functs statement.operation statement.operands := by
  rw [recordOf, Record.get_fill, told.single (slot, source) member]
  rfl

/-- The sentence of a memory operation ends with its address, as it was written. -/
theorem occurs_address {record : Record} {operand : String} {address : Address}
    (parsed : Address.ofOperand operand = .ok address)
    (offset : record.get .offset = some address.offset)
    (base : record.get .rs = some address.base) (operation : String) :
    Text.Occurs operand
      (Template.render record (Explanation.memoryTemplate operation)) := by
  have opening : "(".toList = ['('] := by decide
  have closing : ")".toList = [')'] := by decide
  let ending : Template := [.slot .offset, "(", .slot .rs, ")"]
  have split : Explanation.memoryTemplate operation =
      (Explanation.memoryTemplate operation).take 9 ++ ending := rfl
  have told : (ending.flatMap fun piece => (piece.render record).toList) = operand.toList := by
    simp [ending, Piece.render, offset, base, slotText, opening, closing,
      Address.toList_of_ofOperand parsed]
  rw [Text.Occurs, Template.toList_render, split, List.flatMap_append, told]
  exact (List.suffix_append _ _).isInfix

theorem occurs_of_isAddress (told : Told category statement template)
    (chosen : Explanation.template? category statement.operation = some template)
    (content : complaint? category statement = none) {slot : Slot} {source : Source}
    (member : (slot, source) ∈ layoutOf category statement) (isAddress : source.isAddress = true)
    {operand : String} (found : statement.operands[1]? = some operand) :
    Text.Occurs operand (Template.render (recordOf functs category statement) template) := by
  rcases exists_address content member isAddress with ⟨address, parsed⟩
  rcases Address.ofOperands_eq_ok parsed with ⟨second, present, read⟩
  cases found.symm.trans present
  by_cases memory : category = .memory
  · subst memory
    cases chosen
    have offset : (recordOf functs .memory statement).get .offset = some address.offset := by
      have entry : (Slot.offset, Source.offset) ∈ layoutOf .memory statement := by
        simp [layoutOf, Layout.ofOperation]
      rw [get_recordOf told entry, Source.value, parsed]
      rfl
    have base : (recordOf functs .memory statement).get .rs = some address.base := by
      have entry : (Slot.rs, Source.base) ∈ layoutOf .memory statement := by
        simp [layoutOf, Layout.ofOperation]
      rw [get_recordOf told entry, Source.value, parsed]
      rfl
    exact occurs_address read offset base statement.operation
  · rw [Layout.isAddress_eq_false memory _ _ _ member] at isAddress
    cases isAddress

/-- Every operand that is recorded is told. -/
theorem occurs_operand (told : Told category statement template)
    (chosen : Explanation.template? category statement.operation = some template)
    (content : complaint? category statement = none)
    (filled : ∀ operand ∈ statement.operands, operand ≠ "")
    {slot : Slot} {source : Source} {index : Nat} {operand : String}
    (member : (slot, source) ∈ layoutOf category statement)
    (taken : source.index? = some index)
    (found : statement.operands[index]? = some operand) :
    Text.Occurs operand (Template.render (recordOf functs category statement) template) := by
  cases source with
  | operand position =>
      cases taken
      have stored : (recordOf functs category statement).get slot = some operand :=
        (get_recordOf told member).trans found
      exact Template.occurs_value (told.told _ member rfl) stored
        (filled operand (List.mem_of_getElem? found))
  | offset | base =>
      cases taken
      exact occurs_of_isAddress told chosen content member rfl found
  | _ => cases taken

/-- Every value that is taken from an operand is recorded, as a part of it. -/
theorem exists_recorded (told : Told category statement template)
    (content : complaint? category statement = none)
    {slot : Slot} {source : Source} {index : Nat} {operand : String}
    (member : (slot, source) ∈ layoutOf category statement)
    (taken : source.index? = some index)
    (found : statement.operands[index]? = some operand) :
    ∃ value, (recordOf functs category statement).get slot = some value ∧
      Text.Occurs value operand := by
  have filled : source.isFilledBy statement.operands.length = true := by
    cases source with
    | operand position =>
        cases taken
        rcases List.getElem?_eq_some_iff.mp found with ⟨present, _⟩
        exact decide_eq_true present
    | offset | base => rfl
    | _ => cases taken
  have written : ∃ value,
      source.value functs statement.operation statement.operands = some value :=
    Source.exists_value filled le_rfl (exists_address content member)
  rcases written with ⟨value, stored⟩
  rcases Source.occurs_of_index? taken stored with ⟨other, present, inside⟩
  cases present.symm.trans found
  exact ⟨value, (get_recordOf told member).trans stored, inside⟩

end Gloss

/-! ## Parts of names -/

namespace Explanation

/-- The number of parts that the template of a category takes from a dotted name. -/
def partsRead : Category → Nat
  | .convert => 3
  | .floating => 1
  | _ => 0

theorem partsRead_le {operation : String} {category : Category}
    (found : Category.ofOperation? operation = some category) :
    partsRead category ≤ (dotted operation.toList).length := by
  have rows : ∀ pair ∈ Category.table,
      partsRead pair.2 ≤ (dotted pair.1.toList).length := by
    decide +kernel
  exact rows (operation, category) (Category.mem_table found)

end Explanation

/-! ## Explanations of lines -/

namespace Gloss

variable {functs : FunctLookup} {statement : Statement} {category : Category}

/-- A gloss with an explanation of its own, which tells what is recorded. -/
structure Explained (category : Category) (statement : Statement) (gloss : Gloss) : Prop where
  templated : ∃ template, Explanation.template? category statement.operation = some template ∧
    gloss.explanation = Template.render gloss.record template ∧
    ∀ slot ∈ Template.slots template, slot.name ∈ gloss.record.names
  own : ∀ other operation, gloss.explanation ≠
    Template.render gloss.record (Explanation.fallback other operation)
  parted : Explanation.partsRead category ≤ (Explanation.dotted statement.operation.toList).length
  told : ∀ slot source index operand,
    (slot, source) ∈
      Layout.ofOperation category statement.operation statement.operands.length →
    source.index? = some index → statement.operands[index]? = some operand →
    ∃ value, gloss.record.get slot = some value ∧ Text.Occurs value operand ∧
      Text.Occurs operand gloss.explanation
  missing : (∀ operand ∈ statement.operands, ¬ Text.Occurs emptySlotText operand) →
    (Text.Occurs emptySlotText gloss.explanation ↔
      statement.operands.length < neededOperands statement.operation)

theorem eq_ofKnown_of_ofStatement {gloss : Gloss}
    (found : Category.ofOperation? statement.operation = some category)
    (success : ofStatement functs statement = .ok gloss) :
    complaint? category statement = none ∧ gloss = ofKnown functs category statement := by
  simp only [ofStatement, found] at success
  cases complaint : complaint? category statement with
  | some error => simp [complaint] at success
  | none =>
      simp only [complaint, Except.ok.injEq] at success
      exact ⟨rfl, success.symm⟩

theorem explained_ofStatement {gloss : Gloss}
    (found : Category.ofOperation? statement.operation = some category)
    (filled : ∀ operand ∈ statement.operands, operand ≠ "")
    (success : ofStatement functs statement = .ok gloss) :
    Explained category statement gloss := by
  rcases eq_ofKnown_of_ofStatement found success with ⟨content, rfl⟩
  rcases Explanation.exists_suits found statement.operands.length with ⟨template, chosen, told⟩
  have sentence : (ofKnown functs category statement).explanation =
      Template.render (recordOf functs category statement) template := by
    rw [ofKnown, Explanation.text, chosen, Option.getD_some, recordOf, layoutOf]
  refine ⟨⟨template, chosen, sentence, ?_⟩, ?_, Explanation.partsRead_le found, ?_, ?_⟩
  · intro slot looks
    rcases List.mem_map.mp (told.declared slot looks) with ⟨entry, member, rfl⟩
    simp only [ofKnown, Record.names, Layout.fill, List.map_map]
    exact List.mem_map.mpr ⟨entry, member, rfl⟩
  · intro other operation
    rw [sentence]
    exact Template.render_ne_fallback told.own _ other operation
  · intro slot source index operand member taken present
    rcases exists_recorded told content member taken present with ⟨value, stored, inside⟩
    refine ⟨value, stored, inside, ?_⟩
    rw [sentence]
    exact occurs_operand told chosen content filled member taken present
  · intro clean
    rw [sentence]
    exact occurs_emptySlotText_iff told content clean

/-- The gloss of a known operation explains it with a template of its own. The explanation
tells every operand that is recorded, and it speaks of something missing exactly where the
line has fewer operands than the operation needs. -/
theorem explained_ofLine {line : String} {gloss : Gloss}
    (found : Category.ofOperation? (Statement.ofLine line).operation = some category)
    (success : ofLine functs line = .ok gloss) :
    Explained category (Statement.ofLine line) gloss := by
  have filled : ∀ operand ∈ (Statement.ofLine line).operands, operand ≠ "" := by
    intro operand member
    simp only [Statement.ofLine] at member
    exact Operand.ne_empty_of_mem_split member
  exact explained_ofStatement found filled success

/-- A load whose offset is the text of no empty slot, but nearly so. -/
theorem explained_lw :
    Category.ofOperation? (Statement.ofLine "LW $t0, n/(a)").operation = some .memory ∧
    ∃ gloss, ofLine (fun _ => none) "LW $t0, n/(a)" = .ok gloss ∧
      gloss.explanation = "Load word: lw $t0, n/(a)" ∧
      Explained .memory (Statement.ofLine "LW $t0, n/(a)") gloss := by
  have found : Category.ofOperation? (Statement.ofLine "LW $t0, n/(a)").operation =
      some .memory := by decide +kernel
  have success : ofLine (fun _ => none) "LW $t0, n/(a)" =
      .ok ⟨"lw", "Load word: lw $t0, n/(a)",
        [(.rt, some "$t0"), (.offset, some "n/"), (.rs, some "a")]⟩ := by decide +kernel
  exact ⟨found, _, success, rfl, explained_ofLine found success⟩

end Gloss

end MipsGloss
