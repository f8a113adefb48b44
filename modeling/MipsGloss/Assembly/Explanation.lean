import MipsGloss.Assembly.Record

namespace MipsGloss

/-! An explanation is a sentence with slots. A template gives the sentence of an
operation as a list of pieces: fixed text, the value of a slot, or the value of
a slot with a text to use where the slot holds nothing. -/

inductive Piece where
  | text (content : String)
  | slot (source : Slot)
  | slotOr (source : Slot) (otherwise : String)
  deriving DecidableEq, Repr

instance : Coe String Piece := ⟨.text⟩

instance : Coe Slot Piece := ⟨.slot⟩

abbrev Template := List Piece

def Piece.render (record : Record) : Piece → String
  | .text content => content
  | .slot source => slotText (record.get source)
  | .slotOr source otherwise =>
    match record.get source with
    | some value => if value = "" then otherwise else value
    | none => otherwise

def Template.render (record : Record) (template : Template) : String :=
  String.join (template.map (Piece.render record))

namespace Explanation

open Slot

def arithmeticTemplates : List (String × Template) :=
  [("add", [rd, " = ", rs, " + ", rt, " (with overflow check)"]),
   ("addu", [rd, " = ", rs, " + ", rt, " (no overflow check)"]),
   ("sub", [rd, " = ", rs, " - ", rt, " (with overflow check)"]),
   ("subu", [rd, " = ", rs, " - ", rt, " (no overflow check)"]),
   ("and", [rd, " = ", rs, " & ", rt, " (bitwise AND)"]),
   ("or", [rd, " = ", rs, " | ", rt, " (bitwise OR)"]),
   ("xor", [rd, " = ", rs, " ^ ", rt, " (bitwise XOR)"]),
   ("nor", [rd, " = ~(", rs, " | ", rt, ") (bitwise NOR)"]),
   ("slt", [rd, " = (", rs, " < ", rt, ") ? 1 : 0 (signed comparison)"]),
   ("sltu", [rd, " = (", rs, " < ", rt, ") ? 1 : 0 (unsigned comparison)"]),
   ("mul", [rd, " = ", rs, " * ", rt, " (signed, low 32 bits)"]),
   ("mulo", [rd, " = ", rs, " * ", rt, " (signed, with overflow check)"]),
   ("mulou", [rd, " = ", rs, " * ", rt, " (unsigned, with overflow check)"]),
   ("rem", [rd, " = ", rs, " % ", rt, " (signed remainder)"]),
   ("remu", [rd, " = ", rs, " % ", rt, " (unsigned remainder)"])]

def shiftTemplates : List (String × Template) :=
  [("sll", [rd, " = ", rt, " << ", shamt, " (shift left logical)"]),
   ("srl", [rd, " = ", rt, " >> ", shamt, " (shift right logical)"]),
   ("sra", [rd, " = ", rt, " >> ", shamt, " (shift right arithmetic)"])]

def variableShiftTemplates : List (String × Template) :=
  [("sllv", [rd, " = ", rt, " << ", rs, " (shift left logical variable)"]),
   ("srlv", [rd, " = ", rt, " >> ", rs, " (shift right logical variable)"]),
   ("srav", [rd, " = ", rt, " >> ", rs, " (shift right arithmetic variable)"]),
   ("rol", [rd, " = ", rt, " rotated left by ", rs, " bits"]),
   ("ror", [rd, " = ", rt, " rotated right by ", rs, " bits"])]

def multiplyDivideTemplates : List (String × Template) :=
  [("mult", ["Multiply ", rs, " by ", rt, " (signed), store 64-bit result in HI:LO"]),
   ("multu", ["Multiply ", rs, " by ", rt,
      " (unsigned), store 64-bit result in HI:LO"]),
   ("div", ["Divide ", rs, " by ", rt,
      " (signed), store quotient in LO and remainder in HI"]),
   ("divu", ["Divide ", rs, " by ", rt,
      " (unsigned), store quotient in LO and remainder in HI"])]

def highLowTemplates : List (String × Template) :=
  [("mfhi", [rd, " = HI (move from HI register)"]),
   ("mflo", [rd, " = LO (move from LO register)"]),
   ("mthi", ["HI = ", rs, " (move to HI register)"]),
   ("mtlo", ["LO = ", rs, " (move to LO register)"])]

def jumpTrapTemplates : List (String × Template) :=
  [("jr", ["Jump to address in ", rs]),
   ("jalr", ["Jump to address in ", rs,
      " and store return address in ", .slotOr rd "$ra"]),
   ("syscall", ["System call (invoke operating system service)"]),
   ("break", ["Breakpoint (generate exception)"]),
   ("teq", ["Trap if ", rs, " == ", rt]),
   ("tge", ["Trap if ", rs, " >= ", rt, " (signed)"]),
   ("tgeu", ["Trap if ", rs, " >= ", rt, " (unsigned)"]),
   ("tlt", ["Trap if ", rs, " < ", rt, " (signed)"]),
   ("tltu", ["Trap if ", rs, " < ", rt, " (unsigned)"]),
   ("tne", ["Trap if ", rs, " != ", rt])]

def immediateTemplates : List (String × Template) :=
  [("addi", [rt, " = ", rs, " + ", immediate, " (signed with overflow check)"]),
   ("addiu", [rt, " = ", rs, " + ", immediate,
      " (signed without overflow check)"]),
   ("andi", [rt, " = ", rs, " & ", immediate, " (bitwise AND)"]),
   ("ori", [rt, " = ", rs, " | ", immediate, " (bitwise OR)"]),
   ("xori", [rt, " = ", rs, " ^ ", immediate, " (bitwise XOR)"]),
   ("slti", [rt, " = (", rs, " < ", immediate,
      ") ? 1 : 0 (signed comparison)"]),
   ("sltiu", [rt, " = (", rs, " < ", immediate,
      ") ? 1 : 0 (unsigned comparison)"])]

/-- The sentence of a branch, which ends in its condition. -/
def branchTo (condition : Template) : Template :=
  "Branch to PC + 4 + (" :: offset :: " << 2) if " :: condition

def branchTemplates : List (String × Template) :=
  [("beq", branchTo [rs, " == ", rt]),
   ("bne", branchTo [rs, " != ", rt]),
   ("blez", branchTo [rs, " <= 0"]),
   ("bgtz", branchTo [rs, " > 0"]),
   ("bltz", branchTo [rs, " < 0"]),
   ("bgez", branchTo [rs, " >= 0"]),
   ("bltzal", branchTo [rs, " < 0 and store return address in $ra"]),
   ("bgezal", branchTo [rs, " >= 0 and store return address in $ra"])]

def plainTemplates : List (String × Template) :=
  [("lui", ["Load upper immediate: ", rt, " = ", immediate, " << 16"]),
   ("la", ["Load address: ", rt, " = address of ", address]),
   ("li", ["Load immediate: ", rt, " = ", immediate]),
   ("move", ["Move: ", rd, " = ", rs]),
   ("not", ["Bitwise NOT: ", rd, " = ~", rs]),
   ("neg", ["Negate: ", rd, " = -", rs]),
   ("negu", ["Negate unsigned: ", rd, " = -", rs]),
   ("j", ["Jump to address ", address]),
   ("jal", ["Jump and link: store return address in $ra and jump to ", address]),
   ("nop", ["No operation: does nothing"]),
   ("rfe", ["Return from exception: restores status after exception"])]

/-! The sentences of memory operations, coprocessor moves and floating point
operations are read off their names. -/

def accessSizes : List (Char × String) :=
  [('b', "byte"), ('h', "halfword"), ('w', "word"), ('d', "doubleword"),
   ('l', "left word"), ('r', "right word")]

/-- The first letter of a memory operation tells a load from a store, the
second one gives the size, and a `u` at the end marks it unsigned. -/
def memoryTemplate (operation : String) : Template :=
  let letters := operation.toList
  let direction := if letters.head? = some 'l' then "Load" else "Store"
  let size := (letters[1]?.bind fun letter => accessSizes.lookup letter).getD "word"
  let sign := if letters.getLast? = some 'u' then " unsigned" else ""
  [direction, " ", size, sign, ": ", operation, " ", rt, ", ", offset, "(", rs, ")"]

def coprocessorTemplate (operation : String) : Template :=
  let direction := if ['m', 'f'].isPrefixOf operation.toList then "from" else "to"
  [operation, ": Move ", rt, " ", direction, " coprocessor ", coprocessor,
   " register ", rd]

/-- The parts of a name between its dots. -/
def dotted (letters : List Char) : List (List Char) :=
  match letters with
  | [] => [[]]
  | '.' :: rest => [] :: dotted rest
  | letter :: rest =>
    match dotted rest with
    | [] => [[letter]]
    | part :: parts => (letter :: part) :: parts

def namePart (operation : String) (index : Nat) : String :=
  String.ofList ((dotted operation.toList)[index]?.getD [])

def convertTemplate (operation : String) : Template :=
  ["Convert ", fs, " from ", namePart operation 1, " to ",
   namePart operation 2, " format, store in ", fd]

def floatingTemplate (operation : String) : Template :=
  let name := namePart operation 0
  ["Floating point ", name, " (", precision, " precision): ", fd, " = ", fs,
   " ", name, " ", ft]

/-- The template of an operation, if there is one for its category and name. -/
def template? (category : Category) (operation : String) : Option Template :=
  match category with
  | .arithmetic => arithmeticTemplates.lookup operation
  | .shift => shiftTemplates.lookup operation
  | .variableShift => variableShiftTemplates.lookup operation
  | .multiplyDivide => multiplyDivideTemplates.lookup operation
  | .highLow => highLowTemplates.lookup operation
  | .jumpTrap => jumpTrapTemplates.lookup operation
  | .immediate => immediateTemplates.lookup operation
  | .branch => branchTemplates.lookup operation
  | .memory => some (memoryTemplate operation)
  | .loadImmediate | .loadAddress | .move | .jump | .bare =>
    plainTemplates.lookup operation
  | .coprocessorMove => some (coprocessorTemplate operation)
  | .convert => some (convertTemplate operation)
  | .floating => some (floatingTemplate operation)

/-- What is said of an operation that has no template. -/
def fallback (category : Category) (operation : String) : Template :=
  match category with
  | .immediate => ["I-type arithmetic instruction: ", operation, " operation"]
  | .branch => ["Branch instruction: ", operation, " operation"]
  | _ => ["R-type instruction: ", operation, " operation"]

def text (category : Category) (operation : String) (record : Record) : String :=
  Template.render record
    ((template? category operation).getD (fallback category operation))

end Explanation

end MipsGloss
