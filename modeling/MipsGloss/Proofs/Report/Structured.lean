import Mathlib.Data.List.Forall2
import MipsGloss.Proofs.Assembly.Funct
import MipsGloss.Proofs.Assembly.Schema
import MipsGloss.Proofs.Encoding.Fields
import MipsGloss.Proofs.Json.Line
import MipsGloss.Proofs.Lookup
import MipsGloss.Report.Rendering

namespace MipsGloss

/-! Reports as structured data. Whatever characters a report holds, it is read back from
the line it is written on, with every member under its name and every text unchanged. -/

/-! ## Texts that may be absent -/

namespace Json

/-- A value tells a text, or is null where there is none. -/
inductive Tells : Option String → Value → Prop
  | text (text : String) : Tells (some text) (.string text)
  | nothing : Tells none .null

/-- An object tells a list of fields: it has a member for each of them, in order, and no
two have the same name. -/
def TellsFields (fields : List (String × Option String)) (value : Value) : Prop :=
  ∃ members, value = .object members ∧ (members.map Prod.fst).Nodup ∧
    List.Forall₂ (fun field member => member.1 = field.1 ∧ Tells field.2 member.2) fields members

/-- The members of an object that tells some fields. -/
def fieldMembers (fields : List (String × Option String)) : List (String × Value) :=
  fields.map fun field => (field.1, Value.ofText? field.2)

theorem tells_ofText? (text : Option String) : Tells text (Value.ofText? text) := by
  cases text with
  | some text => exact .text text
  | none => exact .nothing

theorem tellsFields_fieldMembers {fields : List (String × Option String)}
    (distinct : (fields.map Prod.fst).Nodup) :
    TellsFields fields (.object (fieldMembers fields)) := by
  refine ⟨fieldMembers fields, rfl, ?_, ?_⟩
  · rw [fieldMembers, List.map_map]
    exact distinct
  · rw [fieldMembers, List.forall₂_map_right_iff, List.forall₂_same]
    exact fun field _ => ⟨rfl, tells_ofText? field.2⟩

/-! ## Values without numbers -/

namespace Value

theorem spellableItems_iff {items : List Value} :
    SpellableItems items ↔ ∀ item ∈ items, item.Spellable := by
  induction items with
  | nil => simp [SpellableItems]
  | cons item rest induction => rw [SpellableItems, induction, List.forall_mem_cons]

theorem spellableMembers_iff {members : List (String × Value)} :
    SpellableMembers members ↔ ∀ member ∈ members, member.2.Spellable := by
  induction members with
  | nil => simp [SpellableMembers]
  | cons member rest induction => rw [SpellableMembers, induction, List.forall_mem_cons]

theorem spellable_ofText? (text : Option String) : (ofText? text).Spellable := by
  cases text <;> trivial

theorem spellable_fieldMembers (fields : List (String × Option String)) :
    (Value.object (fieldMembers fields)).Spellable := by
  rw [Spellable, spellableMembers_iff, fieldMembers, List.forall_mem_map]
  exact fun field _ => spellable_ofText? field.2

/-! ## Depth -/

theorem itemsDepth_le_iff {items : List Value} {bound : Nat} :
    itemsDepth items ≤ bound ↔ ∀ item ∈ items, item.depth ≤ bound := by
  induction items with
  | nil => simp [itemsDepth]
  | cons item rest induction => rw [itemsDepth, max_le_iff, induction, List.forall_mem_cons]

theorem membersDepth_le_iff {members : List (String × Value)} {bound : Nat} :
    membersDepth members ≤ bound ↔ ∀ member ∈ members, member.2.depth ≤ bound := by
  induction members with
  | nil => simp [membersDepth]
  | cons member rest induction => rw [membersDepth, max_le_iff, induction, List.forall_mem_cons]

theorem depth_fieldMembers (fields : List (String × Option String)) :
    (Value.object (fieldMembers fields)).depth ≤ 1 := by
  rw [depth, Nat.add_le_add_iff_right, membersDepth_le_iff, fieldMembers, List.forall_mem_map]
  rintro ⟨_, _ | text⟩ _ <;> exact le_rfl

/-- An object with two texts and some data, which is as deep as the data makes it. -/
theorem depth_described {first second third name text : String} {data : Value} {bound : Nat}
    (shallow : data.depth ≤ bound) :
    (Value.object [(first, .string name), (second, .string text), (third, data)]).depth ≤
      bound + 1 := by
  rw [depth, Nat.add_le_add_iff_right, membersDepth_le_iff]
  simp only [List.forall_mem_cons]
  exact ⟨Nat.zero_le _, Nat.zero_le _, shallow, nofun⟩

/-! ## Members that may be absent -/

/-- The members of an object that are there. -/
def present (members : List (String × Option Value)) : List (String × Value) :=
  members.filterMap fun member => member.2.map fun value => (member.1, value)

theorem names_present_sublist (members : List (String × Option Value)) :
    ((present members).map Prod.fst).Sublist (members.map Prod.fst) := by
  induction members with
  | nil => exact .slnil
  | cons member rest induction =>
      rcases member with ⟨name, _ | value⟩
      · exact induction.cons name
      · exact induction.cons_cons name

theorem forall_mem_present {holds : Value → Prop} {members : List (String × Option Value)}
    (each : ∀ member ∈ members, ∀ value ∈ member.2, holds value) :
    ∀ member ∈ present members, holds member.2 := by
  intro member found
  rcases List.mem_filterMap.mp found with ⟨original, listed, equal⟩
  rcases Option.map_eq_some_iff.mp equal with ⟨value, present, rfl⟩
  exact each original listed value present

theorem lookup_present {members : List (String × Option Value)}
    (distinct : (members.map Prod.fst).Nodup) (name : String) :
    (present members).lookup name =
      (members.find? fun member => member.1 == name).bind Prod.snd :=
  lookup_filterMap Prod.fst Prod.snd distinct name

end Value

end Json

/-! ## The records of words -/

/-- Where a member of a record has its text from: some digits of the word, the trap
condition that five of them select, or the format alone. -/
inductive Column where
  | digits (start count : Nat)
  | condition (start : Nat)
  | fixed (text : String)
  deriving DecidableEq, Repr

namespace Column

def conditions : List (String × String) :=
  [("01000", "tgei"), ("01001", "tgeiu"), ("01010", "tlti"), ("01011", "tltiu"),
   ("01100", "teqi"), ("01110", "tnei")]

def slice (digits : List Char) (start count : Nat) : String :=
  String.ofList ((digits.drop start).take count)

/-- The text of a column. A condition is absent where the digits select none. -/
def text? (digits : List Char) : Column → Option String
  | .digits start count => some (slice digits start count)
  | .condition start => conditions.lookup (slice digits start 5)
  | .fixed text => some text

theorem trapCondition?_eq (selector : BitVec 5) :
    Format.trapCondition? selector = conditions.lookup (Bits.text selector) := by
  have table : ∀ selector : BitVec 5,
      Format.trapCondition? selector = conditions.lookup (Bits.text selector) := by
    decide +kernel
  exact table selector

end Column

namespace Format

/-- The columns of a format. The opcode decides about those of the coprocessors. -/
def columns (digits : List Char) : Format → List (String × Column)
  | .register =>
    [("opcode", .digits 0 6), ("rs", .digits 6 5), ("rt", .digits 11 5), ("rd", .digits 16 5),
     ("shamt", .digits 21 5), ("funct", .digits 26 6)]
  | .registerTrap =>
    [("opcode", .digits 0 6), ("rs", .digits 6 5), ("rt", .digits 11 5), ("code", .digits 16 10),
     ("funct", .digits 26 6)]
  | .immediate =>
    [("opcode", .digits 0 6), ("rs", .digits 6 5), ("rt", .digits 11 5),
     ("immediate", .digits 16 16)]
  | .immediateTrap =>
    [("opcode", .digits 0 6), ("rs", .digits 6 5), ("rtBinary", .digits 11 5),
     ("rtName", .condition 11), ("immediate", .digits 16 16)]
  | .jump => [("opcode", .digits 0 6), ("address", .digits 6 26)]
  | .special =>
    if digits.take 6 = ['0', '1', '0', '0', '0', '0'] then
      [("opcode", .digits 0 6), ("rs", .digits 6 5), ("rt", .digits 11 5), ("rd", .digits 16 5),
       ("funct", .digits 26 6), ("coprocessor", .fixed "0")]
    else if digits.take 6 = ['0', '1', '0', '0', '0', '1'] then
      [("opcode", .digits 0 6), ("fmt", .digits 6 5), ("ft", .digits 11 5), ("fs", .digits 16 5),
       ("fd", .digits 21 5), ("funct", .digits 26 6), ("coprocessor", .fixed "1")]
    else if digits.take 6 = ['0', '1', '0', '0', '1', '0'] then
      [("opcode", .digits 0 6), ("coprocessor", .fixed "2"), ("rs", .digits 6 5),
       ("rt", .digits 11 5), ("rd", .digits 16 5), ("funct", .digits 26 6)]
    else [("opcode", .digits 0 6), ("binary", .digits 0 32)]
  | .unknown => [("opcode", .digits 0 6)]

/-- The record of the word with the given digits. -/
def record (digits : List Char) (format : Format) : List (String × Option String) :=
  (format.columns digits).map fun column => (column.1, column.2.text? digits)

theorem nodup_names_columns (digits : List Char) (format : Format) :
    ((format.columns digits).map Prod.fst).Nodup := by
  cases format with
  | special =>
      rw [columns]
      split_ifs <;> simp
  | _ => simp [columns]

theorem nodup_names_record (digits : List Char) (format : Format) :
    ((format.record digits).map Prod.fst).Nodup := by
  rw [record, List.map_map]
  exact format.nodup_names_columns digits

end Format

namespace Fields

theorem members_ofSpecial (word : Word) :
    (ofSpecial word).members = Format.record (Bits.digits word) .special := by
  have control : (Bits.digits word).take 6 = ['0', '1', '0', '0', '0', '0'] ↔
      word.opcode = Format.systemControlOpcode :=
    word.take_digits_eq_iff Format.systemControlOpcode
  have floating : (Bits.digits word).take 6 = ['0', '1', '0', '0', '0', '1'] ↔
      word.opcode = Format.floatingPointOpcode :=
    word.take_digits_eq_iff Format.floatingPointOpcode
  have extension : (Bits.digits word).take 6 = ['0', '1', '0', '0', '1', '0'] ↔
      word.opcode = Format.extensionOpcode :=
    word.take_digits_eq_iff Format.extensionOpcode
  have whole : (Bits.digits word).take 32 = Bits.digits word :=
    List.take_of_length_le (by rw [Bits.length_digits])
  simp only [ofSpecial, Format.record, Format.columns, control, floating, extension]
  split_ifs <;> simp [members, Bits.text, Column.text?, Column.slice, whole]

theorem members_ofWord (format : Format) (word : Word) :
    (ofWord format word).members = format.record (Bits.digits word) := by
  cases format with
  | special => exact members_ofSpecial word
  | immediateTrap =>
      simp [ofWord, members, Column.trapCondition?_eq, Bits.text, Format.record, Format.columns,
        Column.text?, Column.slice]
  | _ =>
      simp [ofWord, members, Bits.text, Format.record, Format.columns, Column.text?, Column.slice]

/-- Fields that are read in a format are the record that the format has for the digits. -/
theorem exists_members_eq {formatName digits : String} {fields : Fields}
    (success : ofDigits formatName digits = .ok fields) :
    ∃ format : Format, format.name = formatName ∧
      fields.members = format.record digits.toList := by
  rw [ofDigits, Instruction.ofDigitsAs] at success
  cases read : Word.ofDigits digits with
  | error error => simp [read, Except.map] at success
  | ok word =>
      cases named : Format.ofName? formatName with
      | none => simp [read, named, Except.map] at success
      | some format =>
          simp only [read, named, Except.map, Instruction.ofWordAs, Except.ok.injEq] at success
          refine ⟨format, by simpa using List.find?_some named, ?_⟩
          rw [← success, members_ofWord, Word.eq_text_of_ofDigits read, Bits.text,
            String.toList_ofList]

end Fields

/-! ## Reports -/

/-- The members of an object tell the record that a format has for the digits of a word. -/
def Fields.ToldBy (fields : Fields) (data : Json.Value) : Prop :=
  ∃ (format : Format) (digits : String), ofDigits format.name digits = .ok fields ∧
    Json.TellsFields (format.record digits.toList) data

def Instruction.ToldBy (instruction : Instruction) (value : Json.Value) : Prop :=
  ∃ data, instruction.fields.ToldBy data ∧ value = .object
    [("type", .string instruction.format.name),
     ("opcode", .string (Bits.text instruction.opcode)),
     ("data", data)]

def Gloss.ToldBy (gloss : Gloss) (value : Json.Value) : Prop :=
  ∃ details, Json.TellsFields gloss.record.fields details ∧ value = .object
    [("operation", .string gloss.operation),
     ("explanation", .string gloss.explanation),
     ("details", details)]

namespace Report

/-- The fields of a report come from digits, in whatever format, and its gloss from a
line. Its texts come from anywhere. -/
structure Made (report : Report) : Prop where
  binary : ∀ instruction, report.binary = some instruction →
    ∃ formatName digits, Fields.ofDigits formatName digits = .ok instruction.fields
  assembly : ∀ gloss, report.assembly = some gloss →
    ∃ functs line, Gloss.ofLine functs line = .ok gloss

/-- The members of an object tell a report. -/
structure ToldBy (report : Report) (members : List (String × Json.Value)) : Prop where
  names : (members.map Prod.fst).Sublist
    ["input", "mode", "address", "segment", "binary", "mnemonic"]
  input : members.lookup "input" = some (.string report.input)
  mode : members.lookup "mode" = some (.string report.mode)
  address : members.lookup "address" =
    if report.address = "" then none else some (.string report.address)
  segment : members.lookup "segment" =
    if report.block = "" then none else some (.string report.block)
  binary : Option.Rel Instruction.ToldBy report.binary (members.lookup "binary")
  assembly : Option.Rel Gloss.ToldBy report.assembly (members.lookup "mnemonic")

end Report

theorem Fields.toldBy_json {formatName digits : String} {fields : Fields}
    (success : ofDigits formatName digits = .ok fields) : fields.ToldBy fields.json := by
  rcases exists_members_eq success with ⟨format, rfl, members⟩
  refine ⟨format, digits, success, ?_⟩
  rw [json, members]
  exact Json.tellsFields_fieldMembers (format.nodup_names_record digits.toList)

theorem Layout.nodup_names (category : Category) (operation : String) (count : Nat) :
    ((ofOperation category operation count).map fun entry => entry.1.name).Nodup := by
  cases category with
  | highLow | jumpTrap | branch =>
      rw [ofOperation]
      split_ifs <;> simp [registers, Slot.name]
  | _ => simp [ofOperation, registers, Slot.name]

theorem Gloss.nodup_names {functs : FunctLookup} {line : String} {gloss : Gloss}
    (success : ofLine functs line = .ok gloss) : gloss.record.names.Nodup := by
  rw [ofLine, ofStatement] at success
  cases found : Category.ofOperation? (Statement.ofLine line).operation with
  | none =>
      simp only [found, Except.ok.injEq] at success
      rw [← success]
      exact .nil
  | some category =>
      cases complaint : complaint? category (Statement.ofLine line) with
      | some error => simp [found, complaint] at success
      | none =>
          simp only [found, complaint, Except.ok.injEq] at success
          rw [← success, ofKnown, Layout.names_fill]
          exact Layout.nodup_names category _ _

theorem Record.json_eq (record : Record) :
    record.json = .object (Json.fieldMembers record.fields) := by
  rw [json, Json.fieldMembers, fields, List.map_map]
  rfl

theorem Gloss.toldBy_json {functs : FunctLookup} {line : String} {gloss : Gloss}
    (success : ofLine functs line = .ok gloss) : gloss.ToldBy gloss.json := by
  have distinct := nodup_names success
  rw [Record.names_eq] at distinct
  refine ⟨gloss.record.json, ?_, rfl⟩
  rw [Record.json_eq]
  exact Json.tellsFields_fieldMembers distinct

namespace Report

theorem json_eq (report : Report) : report.json = .object (Json.Value.present
    [("input", some (.string report.input)),
     ("mode", some (.string report.mode)),
     ("address", nonEmptyJson report.address),
     ("segment", nonEmptyJson report.block),
     ("binary", report.binary.map Instruction.json),
     ("mnemonic", report.assembly.map Gloss.json)]) := rfl

theorem exists_toldBy_json {report : Report} (made : report.Made) :
    ∃ members, report.json = .object members ∧ report.ToldBy members := by
  refine ⟨_, report.json_eq, Json.Value.names_present_sublist _, ?_, ?_, ?_, ?_, ?_, ?_⟩
  all_goals rw [Json.Value.lookup_present (by simp)]
  · rfl
  · rfl
  · rfl
  · rfl
  · change Option.Rel _ report.binary (report.binary.map Instruction.json)
    cases present : report.binary with
    | none => exact .none
    | some instruction =>
        rcases made.binary instruction present with ⟨formatName, digits, success⟩
        exact .some ⟨_, Fields.toldBy_json success, rfl⟩
  · change Option.Rel _ report.assembly (report.assembly.map Gloss.json)
    cases present : report.assembly with
    | none => exact .none
    | some gloss =>
        rcases made.assembly gloss present with ⟨functs, line, success⟩
        exact .some (Gloss.toldBy_json success)

/-- What holds of every text, every word and every gloss holds of the members of a report. -/
theorem forall_mem_json (holds : Json.Value → Prop) (text : ∀ text, holds (.string text))
    (binary : ∀ instruction : Instruction, holds instruction.json)
    (assembly : ∀ gloss : Gloss, holds gloss.json) (report : Report) :
    ∃ members, report.json = .object members ∧ ∀ member ∈ members, holds member.2 := by
  refine ⟨_, report.json_eq, Json.Value.forall_mem_present ?_⟩
  simp only [List.forall_mem_cons, Option.mem_def, Option.map_eq_some_iff, nonEmptyJson,
    Option.ite_none_left_eq_some, Option.some.injEq]
  refine ⟨?_, ?_, ?_, ?_, ?_, ?_, nofun⟩
  · rintro _ rfl
    exact text report.input
  · rintro _ rfl
    exact text report.mode
  · rintro _ ⟨-, rfl⟩
    exact text report.address
  · rintro _ ⟨-, rfl⟩
    exact text report.block
  · rintro _ ⟨instruction, -, rfl⟩
    exact binary instruction
  · rintro _ ⟨gloss, -, rfl⟩
    exact assembly gloss

theorem spellable_json (report : Report) : report.json.Spellable := by
  have binary (instruction : Instruction) : instruction.json.Spellable :=
    ⟨trivial, trivial, Json.Value.spellable_fieldMembers _, trivial⟩
  have assembly (gloss : Gloss) : gloss.json.Spellable := by
    have details := Json.Value.spellable_fieldMembers gloss.record.fields
    rw [← Record.json_eq] at details
    exact ⟨trivial, trivial, details, trivial⟩
  rcases forall_mem_json Json.Value.Spellable (fun _ => trivial) binary assembly report with
    ⟨members, equal, each⟩
  rw [equal, Json.Value.Spellable, Json.Value.spellableMembers_iff]
  exact each

theorem depth_json_le (report : Report) : report.json.depth ≤ 3 := by
  have binary (instruction : Instruction) : instruction.json.depth ≤ 2 :=
    Json.Value.depth_described (Json.Value.depth_fieldMembers instruction.fields.members)
  have assembly (gloss : Gloss) : gloss.json.depth ≤ 2 := by
    have details := Json.Value.depth_fieldMembers gloss.record.fields
    rw [← Record.json_eq] at details
    exact Json.Value.depth_described details
  have text (text : String) : (Json.Value.string text).depth ≤ 2 := Nat.zero_le 2
  rcases forall_mem_json (fun value => value.depth ≤ 2) text binary assembly report with
    ⟨members, equal, each⟩
  rw [equal, Json.Value.depth, Nat.add_le_add_iff_right, Json.Value.membersDepth_le_iff]
  exact each

theorem depth_listJson_le (reports : List Report) :
    (listJson reports).depth ≤ Json.depthLimit := by
  have shallow : (listJson reports).depth ≤ 4 := by
    rw [listJson, Json.Value.depth, Nat.add_le_add_iff_right, Json.Value.itemsDepth_le_iff,
      List.forall_mem_map]
    exact fun report _ => report.depth_json_le
  exact shallow.trans (by decide)

theorem spellable_listJson (reports : List Report) : (listJson reports).Spellable := by
  rw [listJson, Json.Value.Spellable, Json.Value.spellableItems_iff, List.forall_mem_map]
  exact fun report _ => report.spellable_json

end Report

/-- Reports are written on one line, which spells an array and nothing else. The array has
an object for each report, in order, that tells the report. -/
theorem Rendering.read_render_json (style : PageStyle) {reports : List Report}
    (made : ∀ report ∈ reports, report.Made) :
    ∃ characters values,
      (json.render style (some reports)).toList = characters ++ ['\n'] ∧ '\n' ∉ characters ∧
      Json.read (json.render style (some reports)) = some (.array values, ['\n']) ∧
      (∀ value, Json.SpellsSpaced value (json.render style (some reports)).toList ↔
        value = .array values) ∧
      List.Forall₂ (fun report value => ∃ members, value = .object members ∧
        report.ToldBy members) reports values := by
  have spellable := Report.spellable_listJson reports
  refine ⟨_, reports.map Report.json, (Report.listJson reports).toList_line,
    ((Report.listJson reports).visible_characters spellable).not_mem_newline,
    Json.read_of_readAny (Json.Value.readAny_line spellable) (Report.depth_listJson_le reports),
    fun _ => Json.Value.spellsSpaced_line_iff spellable, ?_⟩
  rw [List.forall₂_map_right_iff, List.forall₂_same]
  exact fun report member => Report.exists_toldBy_json (made report member)

/-- A trap without a name, and a line whose offset is there but empty, under texts of which
most characters are escaped. -/
def Report.escaped : List Report :=
  [{ input := "\x22<\\\u2028>&\n\x00😀", mode := "\t", address := "", block := "</script>"
     binary := some (Instruction.ofWordAs .immediateTrap 0x040dffff#32), assembly := none },
   { input := "", mode := "asm", address := "400018", block := ""
     binary := none
     assembly := some (Gloss.ofKnown Funct.text? .memory ⟨"lw", ["\x22t0\x22", "($sp)"]⟩) }]

theorem Report.made_escaped : ∀ report ∈ escaped, report.Made := by
  have line : Gloss.ofLine Funct.text? "LW \x22t0\x22, ($sp)" =
      .ok (Gloss.ofKnown Funct.text? .memory ⟨"lw", ["\x22t0\x22", "($sp)"]⟩) := by
    decide +kernel
  have word := Fields.ofDigits_text .immediateTrap 0x040dffff#32
  intro report member
  simp only [escaped, List.mem_cons, List.not_mem_nil, or_false] at member
  rcases member with rfl | rfl
  · refine ⟨?_, by simp⟩
    rintro instruction ⟨⟩
    exact ⟨_, _, word⟩
  · refine ⟨by simp, ?_⟩
    rintro gloss ⟨⟩
    exact ⟨_, _, line⟩

theorem Rendering.read_render_escaped :
    (∀ report ∈ Report.escaped, report.Made) ∧
      ∃ values, Json.read (json.render ⟨"$", false⟩ (some Report.escaped)) =
          some (.array values, ['\n']) ∧
        List.Forall₂ (fun report value => ∃ members, value = .object members ∧
          report.ToldBy members) Report.escaped values := by
  rcases read_render_json ⟨"$", false⟩ Report.made_escaped with
    ⟨_, values, _, _, read, _, told⟩
  exact ⟨Report.made_escaped, values, read, told⟩

end MipsGloss
