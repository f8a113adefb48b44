import MipsGloss.Json.Value
import MipsGloss.Report

namespace MipsGloss

/-! Reports as structured data: objects with the members in a fixed order,
without those that a report does not have. -/

def Fields.json (fields : Fields) : Json.Value :=
  .object (fields.members.map fun (name, value) => (name, Json.Value.ofText? value))

def Instruction.json (instruction : Instruction) : Json.Value :=
  .object
    [("type", .string instruction.format.name),
     ("opcode", .string (Bits.text instruction.opcode)),
     ("data", instruction.fields.json)]

def Record.json (record : Record) : Json.Value :=
  .object (record.map fun (slot, value) => (slot.name, Json.Value.ofText? value))

def Gloss.json (gloss : Gloss) : Json.Value :=
  .object
    [("operation", .string gloss.operation),
     ("explanation", .string gloss.explanation),
     ("details", gloss.record.json)]

/-- A text that is left out when it is empty. -/
def nonEmptyJson (text : String) : Option Json.Value :=
  if text = "" then none else some (.string text)

def Report.json (report : Report) : Json.Value :=
  Json.Value.ofMembers
    [("input", some (.string report.input)),
     ("mode", some (.string report.mode)),
     ("address", nonEmptyJson report.address),
     ("segment", nonEmptyJson report.block),
     ("binary", report.binary.map Instruction.json),
     ("mnemonic", report.assembly.map Gloss.json)]

def Report.listJson (reports : List Report) : Json.Value :=
  .array (reports.map Report.json)

def Register.json (register : Register) : Json.Value :=
  .object [("code", .string (Bits.text register)), ("name", .string register.name)]

/-- The register table. -/
def Register.tableJson : Json.Value := .array (Register.all.map Register.json)

end MipsGloss
