import MipsGloss.Report
import MipsGloss.Text.Columns

namespace MipsGloss

/-! Reports as a page of text: a title, then for each report its headings and
the tables of its views. -/

/-- How a page is set: what stands in front of register names, and whether
headings are highlighted. -/
structure PageStyle where
  registerMark : String
  highlight : Bool
  deriving DecidableEq, Repr

namespace PageStyle

/-- Bold and bright cyan. -/
def highlightStart : String := "\x1b[1m\x1b[96m"

def highlightEnd : String := "\x1b[0m"

def heading (style : PageStyle) (title : String) : String :=
  if style.highlight then highlightStart ++ title ++ highlightEnd else title

/-- A line with a heading and a text. -/
def headed (style : PageStyle) (title text : String) : String :=
  style.heading title ++ " " ++ text ++ "\n"

/-- The row of a segment: its name, its digits, its value, and the register
that it selects. -/
def segmentRow (style : PageStyle) (segment : Segment) : String :=
  let register :=
    if segment.isRegister then
      style.registerMark ++ Register.nameOfCode segment.text
    else ""
  "  " ++ segment.name ++ "\t" ++ segment.text ++ "\t" ++
    Text.decimal segment.bits.toNat ++ "\t" ++ register ++ "\n"

def segmentTable (style : PageStyle) (segments : List Segment) : String :=
  Text.align (String.join (segments.map style.segmentRow))

/-- What follows the table of a machine word: the condition of a trap, the
coprocessor, or that the word is unknown. -/
def remark (style : PageStyle) (fields : Fields) : String :=
  match fields with
  | .immediateTrap _ _ selector _ =>
    style.headed "Trap:"
      ((Format.trapCondition? selector).getD Register.unknownName)
  | .unknown _ => "Unknown instruction\n"
  | _ =>
    match fields.coprocessor? with
    | some number => style.headed "Coprocessor:" number
    | none => ""

def instruction (style : PageStyle) (instruction : Instruction) : String :=
  style.headed "Type:" instruction.format.name ++
    style.segmentTable instruction.fields.segments ++
    style.remark instruction.fields

def slotRow (entry : Slot × Option String) : String :=
  "  " ++ entry.1.name ++ "\t" ++ slotText entry.2 ++ "\n"

def slotTable (record : Record) : String :=
  Text.align (String.join (record.map slotRow))

def gloss (style : PageStyle) (gloss : Gloss) : String :=
  style.headed "Operation:" gloss.operation ++
    style.headed "Explanation:" gloss.explanation ++
    slotTable gloss.record

def place (report : Report) : String :=
  if report.address = "" then ""
  else "📍 " ++ report.address ++ " <" ++ report.block ++ ">\n"

def report (style : PageStyle) (report : Report) : String :=
  "\n" ++ place report ++
    style.headed "Input:" (report.input ++ " (" ++ report.mode ++ ")") ++
    (report.binary.map style.instruction).getD "" ++
    (report.assembly.map style.gloss).getD "" ++
    "------------------------------\n"

def title : String :=
  "==============================\n" ++
  "🔍 MIPS Instruction Explanation\n" ++
  "==============================\n"

/-- The page of a list of reports. Without reports there is no page. -/
def page (style : PageStyle) (reports : List Report) : String :=
  if reports.isEmpty then ""
  else title ++ String.join (reports.map style.report)

/-- The register table, one line for each register. -/
def registerTable (style : PageStyle) : String :=
  Text.align (String.join (Register.all.map fun (register : Register) =>
    Bits.text register ++ "\t" ++ style.registerMark ++ register.name ++ "\n"))

end PageStyle

end MipsGloss
