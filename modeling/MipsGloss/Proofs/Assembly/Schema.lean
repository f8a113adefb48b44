import Mathlib.Data.List.Basic
import Mathlib.Tactic.SplitIfs
import MipsGloss.Assembly.Gloss
import MipsGloss.Proofs.Lookup

namespace MipsGloss

/-! Schemas of records. The schema of an operation lists the slots of its record and
says for each where its value stands in the line. Every operation of the table that is
no memory operation has one, and its gloss can always be had and is filled as the schema
says. -/

/-- Where the value of a slot comes from. Tokens are counted along the line, so that the
operation is token zero. -/
inductive Cell where
  | token (position : Nat)
  | fixed (text : String)
  | funct
  | empty
  /-- One cell for lines of at least two operands, another for shorter ones. -/
  | byCount (several few : Cell)

namespace Cell

def value (functs : FunctLookup) (statement : Statement) : Cell → Option String
  | .token position => (statement.operation :: statement.operands)[position]?
  | .fixed text => some text
  | .funct => functs statement.operation
  | .empty => none
  | .byCount several few =>
    if 2 ≤ statement.operands.length then several.value functs statement
    else few.value functs statement

end Cell

/-- The slots of a record by their names. -/
def Record.fields (record : Record) : List (String × Option String) :=
  record.map fun entry => (entry.1.name, entry.2)

theorem Record.names_eq (record : Record) : record.names = record.fields.map Prod.fst := by
  rw [names, fields, List.map_map]
  rfl

abbrev Schema := List (String × Cell)

namespace Schema

def names (schema : Schema) : List String := schema.map (·.1)

/-- The slots of the schema with the values that a statement gives them. -/
def fields (functs : FunctLookup) (statement : Statement) (schema : Schema) :
    List (String × Option String) :=
  schema.map fun column => (column.1, column.2.value functs statement)

theorem names_eq (functs : FunctLookup) (statement : Statement) (schema : Schema) :
    schema.names = (schema.fields functs statement).map Prod.fst := by
  rw [names, fields, List.map_map]
  rfl

/-- The record that all operations with a function code share. -/
def coded (rs rt rd shamt : Cell) : Schema :=
  [("rs", rs), ("rt", rt), ("rd", rd), ("shamt", shamt), ("funct", .funct)]

def table : List (List String × Schema) :=
  [(["add", "addu", "sub", "subu", "and", "or", "xor", "nor", "slt", "sltu", "mul", "mulo",
      "mulou", "rem", "remu"],
    coded (.token 2) (.token 3) (.token 1) (.fixed "0")),
   (["sll", "srl", "sra"], coded .empty (.token 2) (.token 1) (.token 3)),
   (["sllv", "srlv", "srav", "rol", "ror"],
    coded (.token 3) (.token 2) (.token 1) (.fixed "0")),
   (["mult", "multu", "div", "divu"], coded (.token 1) (.token 2) .empty (.fixed "0")),
   (["mfhi", "mflo"], coded .empty .empty (.token 1) (.fixed "0")),
   (["mthi", "mtlo"], coded (.token 1) .empty .empty (.fixed "0")),
   (["jr"], coded (.token 1) .empty .empty (.fixed "0")),
   (["jalr"],
    coded (.byCount (.token 2) (.token 1)) .empty (.byCount (.token 1) .empty) (.fixed "0")),
   (["teq", "tge", "tgeu", "tlt", "tltu", "tne"],
    coded (.token 1) (.token 2) .empty (.fixed "0")),
   (["syscall", "break"], coded .empty .empty .empty (.fixed "0")),
   (["addi", "addiu", "andi", "ori", "xori", "slti", "sltiu"],
    [("rt", .token 1), ("rs", .token 2), ("immediate", .token 3)]),
   (["beq", "bne"], [("rs", .token 1), ("rt", .token 2), ("offset", .token 3)]),
   (["blez", "bgtz", "bltz", "bgez", "bltzal", "bgezal"],
    [("rs", .token 1), ("rt", .empty), ("offset", .token 2)]),
   (["lui", "li"], [("rt", .token 1), ("immediate", .token 2)]),
   (["la"], [("rt", .token 1), ("address", .token 2)]),
   (["move", "not", "neg", "negu"], [("rd", .token 1), ("rs", .token 2)]),
   (["j", "jal"], [("address", .token 1)]),
   (["nop", "rfe"], []),
   (["mfc0", "mtc0"], [("rt", .token 1), ("rd", .token 2), ("coprocessor", .fixed "0")]),
   (["mfc1", "mtc1"], [("rt", .token 1), ("rd", .token 2), ("coprocessor", .fixed "1")]),
   (["mfc2", "mtc2"], [("rt", .token 1), ("rd", .token 2), ("coprocessor", .fixed "2")]),
   (["cvt.s.w", "cvt.d.w", "cvt.w.s", "cvt.w.d"], [("fd", .token 1), ("fs", .token 2)]),
   (["add.s", "sub.s", "mul.s", "div.s"],
    [("fd", .token 1), ("fs", .token 2), ("ft", .token 3), ("precision", .fixed "single")]),
   (["add.d", "sub.d", "mul.d", "div.d"],
    [("fd", .token 1), ("fs", .token 2), ("ft", .token 3), ("precision", .fixed "double")])]

def memoryOperations : List String :=
  ["lw", "sw", "lb", "lbu", "lh", "lhu", "sb", "sh", "lwl", "lwr", "swl", "swr", "ld", "sd"]

def of? (operation : String) : Option Schema :=
  (table.find? (·.1.contains operation)).map (·.2)

theorem nodup_names {operation : String} {schema : Schema}
    (found : of? operation = some schema) : schema.names.Nodup := by
  have rows : ∀ row ∈ table, row.2.names.Nodup := by decide +kernel
  rcases Option.map_eq_some_iff.mp found with ⟨row, selected, rfl⟩
  exact rows row (List.mem_of_find?_eq_some selected)

end Schema

/-! ## Schemas and layouts

A layout counts operands where a schema counts tokens, and it is made for a number of
operands. It is enough to compare the two for several operands and for few. -/

/-- Whether a cell says the same as a source. -/
def Cell.agrees (several : Bool) : Cell → Source → Bool
  | .token position, .operand index => position == index + 1
  | .fixed text, .constant other => text == other
  | .funct, .funct => true
  | .empty, .absent => true
  | .byCount longer shorter, source =>
    if several then longer.agrees several source else shorter.agrees several source
  | _, _ => false

theorem Cell.value_eq_of_agrees {functs : FunctLookup} {statement : Statement} {cell : Cell}
    {source : Source}
    (agreement : cell.agrees (decide (2 ≤ statement.operands.length)) source = true) :
    cell.value functs statement =
      source.value functs statement.operation statement.operands := by
  induction cell with
  | token position =>
      cases source with
      | operand index =>
          rw [agrees, beq_iff_eq] at agreement
          rw [value, Source.value, agreement, List.getElem?_cons_succ]
      | _ => cases agreement
  | fixed text =>
      cases source with
      | constant other =>
          rw [agrees, beq_iff_eq] at agreement
          rw [value, Source.value, agreement]
      | _ => cases agreement
  | funct =>
      cases source with
      | funct => rfl
      | _ => cases agreement
  | empty =>
      cases source with
      | absent => rfl
      | _ => cases agreement
  | byCount several few severalInduction fewInduction =>
      rw [agrees] at agreement
      rw [value]
      by_cases longer : 2 ≤ statement.operands.length
      · rw [decide_eq_true longer] at agreement severalInduction
        rw [if_pos longer]
        exact severalInduction agreement
      · rw [decide_eq_false longer] at agreement fewInduction
        rw [if_neg longer]
        exact fewInduction agreement

namespace Schema

def fits (several : Bool) : Schema → Layout → Bool
  | [], [] => true
  | (name, cell) :: schema, (slot, source) :: layout =>
    name == slot.name && cell.agrees several source && fits several schema layout
  | _, _ => false

theorem fields_fill_of_fits {functs : FunctLookup} {statement : Statement} {schema : Schema}
    {layout : Layout}
    (fit : schema.fits (decide (2 ≤ statement.operands.length)) layout = true) :
    Record.fields (layout.fill functs statement.operation statement.operands) =
      schema.fields functs statement := by
  induction schema generalizing layout with
  | nil =>
      cases layout with
      | nil => rfl
      | cons entry layout => cases fit
  | cons field schema induction =>
      cases layout with
      | nil => cases fit
      | cons entry layout =>
          rcases field with ⟨name, cell⟩
          rcases entry with ⟨slot, source⟩
          rw [fits, Bool.and_eq_true, Bool.and_eq_true, beq_iff_eq] at fit
          rcases fit with ⟨⟨sameName, agreement⟩, rest⟩
          have head : cell.value functs statement =
              source.value functs statement.operation statement.operands :=
            Cell.value_eq_of_agrees agreement
          have tail := induction rest
          rw [Record.fields, Layout.fill, fields] at tail ⊢
          rw [List.map_cons, List.map_cons, List.map_cons, tail, head, sameName]

end Schema

/-- The layout of an operation asks of the number of operands only whether there are
several. -/
theorem Layout.ofOperation_count (category : Category) (operation : String) (count : Nat) :
    ofOperation category operation count =
      ofOperation category operation (if 2 ≤ count then 2 else 1) := by
  cases category with
  | jumpTrap =>
      have same : (count > 1) ↔ ((if 2 ≤ count then 2 else 1) > 1) := by
        split <;> omega
      simp only [ofOperation, same]
  | _ => rfl

theorem Layout.eq_bare_of_ofOperation_eq_nil {category : Category} {operation : String}
    {count : Nat} (empty : ofOperation category operation count = []) : category = .bare := by
  cases category with
  | bare => rfl
  | highLow | jumpTrap | branch =>
      simp only [ofOperation, registers] at empty
      split_ifs at empty
  | _ => cases empty

theorem Category.mem_table {operation : String} {category : Category}
    (found : ofOperation? operation = some category) : (operation, category) ∈ table :=
  mem_of_lookup found

theorem Schema.exists_fits {operation : String} {category : Category}
    (found : Category.ofOperation? operation = some category) (plain : category ≠ .memory)
    (count : Nat) :
    ∃ schema, of? operation = some schema ∧
      schema.fits (decide (2 ≤ count)) (Layout.ofOperation category operation count) = true := by
  have rows : ∀ pair ∈ Category.table, pair.2 ≠ .memory → ∀ several : Bool,
      (of? pair.1).any (fun schema => schema.fits several
        (Layout.ofOperation pair.2 pair.1 (if several then 2 else 1))) = true := by
    decide +kernel
  have row := rows (operation, category) (Category.mem_table found) plain (decide (2 ≤ count))
  rw [Option.any_eq_true] at row
  simp only [decide_eq_true_eq] at row
  rw [Layout.ofOperation_count]
  exact row

theorem Category.mem_memoryOperations {operation : String}
    (found : ofOperation? operation = some .memory) :
    operation ∈ Schema.memoryOperations := by
  have rows : ∀ pair ∈ table, pair.2 = .memory → pair.1 ∈ Schema.memoryOperations := by
    decide +kernel
  exact rows (operation, .memory) (mem_table found) rfl

/-! ## Outcomes -/

/-- What stands in front of the first blank of a line. -/
def Statement.firstToken (line : String) : String :=
  String.ofList ((Text.trimCharacters line.toList).takeWhile isInk)

theorem isKnownOperation_firstToken (line : String) :
    isKnownOperation (Statement.firstToken line) =
      (Category.ofOperation? (Statement.ofLine line).operation).isSome := rfl

namespace Gloss

variable {functs : FunctLookup} {statement : Statement} {category : Category}

theorem ofStatement_of_plain
    (found : Category.ofOperation? statement.operation = some category)
    (plain : category ≠ .memory) :
    ofStatement functs statement = .ok (ofKnown functs category statement) := by
  have content : complaint? category statement = none := by
    cases category with
    | memory => exact absurd rfl plain
    | _ => rfl
  simp only [ofStatement, found, content]

/-- Only operations without operands have an empty record, and their explanations say
what they do. -/
theorem ofKnown_ne_ofUnknown
    (found : Category.ofOperation? statement.operation = some category) :
    ofKnown functs category statement ≠ ofUnknown statement.operation := by
  intro same
  have emptyRecord := congrArg Gloss.record same
  have emptyLayout := List.map_eq_nil_iff.mp emptyRecord
  have bare := Layout.eq_bare_of_ofOperation_eq_nil emptyLayout
  subst bare
  have sentences : ∀ pair ∈ Category.table, pair.2 = .bare →
      Explanation.text .bare pair.1 [] ≠ "Unknown instruction: " ++ pair.1 := by
    decide +kernel
  have sentence := congrArg Gloss.explanation same
  exact sentences (statement.operation, .bare) (Category.mem_table found) rfl sentence

theorem ofStatement_eq_ofUnknown_iff :
    ofStatement functs statement = .ok (ofUnknown statement.operation) ↔
      Category.ofOperation? statement.operation = none := by
  constructor
  · intro unknown
    cases found : Category.ofOperation? statement.operation with
    | none => rfl
    | some category =>
        simp only [ofStatement, found] at unknown
        cases complaint : complaint? category statement with
        | some error => simp [complaint] at unknown
        | none =>
            simp only [complaint, Except.ok.injEq] at unknown
            exact absurd unknown (ofKnown_ne_ofUnknown found)
  · intro unknown
    simp only [ofStatement, unknown]

/-- The gloss that a schema asks for. -/
structure Filled (functs : FunctLookup) (statement : Statement) (schema : Schema)
    (gloss : Gloss) : Prop where
  operation : gloss.operation = statement.operation
  names : gloss.record.names = schema.names
  nodup : schema.names.Nodup
  fields : gloss.record.fields = schema.fields functs statement

theorem exists_filled (functs : FunctLookup)
    (found : Category.ofOperation? statement.operation = some category)
    (plain : category ≠ .memory) :
    ∃ schema gloss, Schema.of? statement.operation = some schema ∧
      ofStatement functs statement = .ok gloss ∧ Filled functs statement schema gloss := by
  rcases Schema.exists_fits found plain statement.operands.length with ⟨schema, selected, fit⟩
  have fields : (ofKnown functs category statement).record.fields =
      schema.fields functs statement := Schema.fields_fill_of_fits fit
  have names : (ofKnown functs category statement).record.names = schema.names := by
    rw [Record.names_eq, fields, Schema.names_eq functs statement]
  exact ⟨schema, _, selected, ofStatement_of_plain found plain,
    rfl, names, Schema.nodup_names selected, fields⟩

/-- An unknown operation has a gloss that says so, whatever its operands, and no other
operation has that gloss. Every known operation that is no memory operation has a gloss
too, whose slots are given by the operation and whose values are those of the schema. -/
theorem ofLine_outcome (functs : FunctLookup) (line : String) :
    (isKnownOperation (Statement.firstToken line) = false ↔
      Category.ofOperation? (Statement.ofLine line).operation = none) ∧
    (Category.ofOperation? (Statement.ofLine line).operation = none ↔
      ofLine functs line = .ok
        { operation := (Statement.ofLine line).operation
          explanation := "Unknown instruction: " ++ (Statement.ofLine line).operation
          record := [] }) ∧
    (isKnownOperation (Statement.firstToken line) = true →
      (Statement.ofLine line).operation ∉ Schema.memoryOperations →
      ∃ schema gloss, Schema.of? (Statement.ofLine line).operation = some schema ∧
        ofLine functs line = .ok gloss ∧
        Filled functs (Statement.ofLine line) schema gloss) := by
  refine ⟨?_, ofStatement_eq_ofUnknown_iff.symm, ?_⟩
  · rw [isKnownOperation_firstToken, Option.isSome_eq_false_iff, Option.isNone_iff_eq_none]
  · intro known noMemory
    rw [isKnownOperation_firstToken] at known
    rcases Option.isSome_iff_exists.mp known with ⟨category, found⟩
    have plain : category ≠ .memory := by
      rintro rfl
      exact noMemory (Category.mem_memoryOperations found)
    exact exists_filled functs found plain

/-- A jump that links, without a table of function codes and with a single operand. -/
theorem ofLine_jalr :
    isKnownOperation (Statement.firstToken " JALR\t$t9") = true ∧
      (Statement.ofLine " JALR\t$t9").operation ∉ Schema.memoryOperations ∧
      ∃ schema gloss, Schema.of? (Statement.ofLine " JALR\t$t9").operation = some schema ∧
        ofLine (fun _ => none) " JALR\t$t9" = .ok gloss ∧
        Filled (fun _ => none) (Statement.ofLine " JALR\t$t9") schema gloss := by
  have known : isKnownOperation (Statement.firstToken " JALR\t$t9") = true := by decide +kernel
  have noMemory : (Statement.ofLine " JALR\t$t9").operation ∉ Schema.memoryOperations := by
    decide +kernel
  exact ⟨known, noMemory, (ofLine_outcome _ _).2.2 known noMemory⟩

end Gloss

end MipsGloss
