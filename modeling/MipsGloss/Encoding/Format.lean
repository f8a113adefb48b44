import MipsGloss.Word

namespace MipsGloss

/-! The format of a word says which slices it is made of. It follows from the
opcode, and for two opcodes from one more slice: the function code tells traps
from other register instructions, and the `rt` selector tells traps on an
immediate from branches. -/

inductive Format where
  | register
  | registerTrap
  | immediate
  | immediateTrap
  | jump
  | special
  | unknown
  deriving DecidableEq, Repr

namespace Format

def all : List Format :=
  [.register, .registerTrap, .immediate, .immediateTrap, .jump, .special, .unknown]

def name : Format → String
  | .register => "R"
  | .registerTrap => "R-Trap"
  | .immediate => "I"
  | .immediateTrap => "I-Trap"
  | .jump => "J"
  | .special => "Special"
  | .unknown => "unknown"

def ofName? (text : String) : Option Format := all.find? (·.name == text)

/-! Opcodes with a layout of their own. -/

def functionOpcode : BitVec 6 := 0b000000#6

def selectorOpcode : BitVec 6 := 0b000001#6

def systemControlOpcode : BitVec 6 := 0b010000#6

def floatingPointOpcode : BitVec 6 := 0b010001#6

def extensionOpcode : BitVec 6 := 0b010010#6

/-- The function codes of the six traps on two registers. -/
def trapFunctions : List (BitVec 6) :=
  [0b110000#6, 0b110001#6, 0b110010#6, 0b110011#6, 0b110100#6, 0b110110#6]

/-- The selectors of the six traps on a register and an immediate. -/
def trapConditions : List (BitVec 5 × String) :=
  [(0b01000#5, "tgei"), (0b01001#5, "tgeiu"), (0b01010#5, "tlti"),
   (0b01011#5, "tltiu"), (0b01100#5, "teqi"), (0b01110#5, "tnei")]

def trapCondition? (selector : BitVec 5) : Option String :=
  trapConditions.lookup selector

def immediateOpcodes : List (BitVec 6) :=
  [0b001000#6, 0b001001#6, 0b001100#6, 0b001101#6, 0b001110#6,
   0b100011#6, 0b101011#6, 0b100000#6, 0b100100#6, 0b100001#6,
   0b100101#6, 0b101000#6, 0b101001#6, 0b000100#6, 0b000101#6,
   0b000110#6, 0b000111#6, 0b001111#6, 0b001010#6, 0b001011#6,
   selectorOpcode, 0b100010#6, 0b100110#6, 0b101010#6, 0b101110#6,
   0b110111#6, 0b111111#6]

def jumpOpcodes : List (BitVec 6) := [0b000010#6, 0b000011#6]

def specialOpcodes : List (BitVec 6) :=
  [systemControlOpcode, floatingPointOpcode, extensionOpcode, 0b010011#6]

def ofWord (word : Word) : Format :=
  let opcode := word.opcode
  if opcode = functionOpcode then
    if trapFunctions.contains word.funct then .registerTrap else .register
  else if immediateOpcodes.contains opcode then
    if opcode = selectorOpcode ∧ (trapCondition? word.rt).isSome then .immediateTrap
    else .immediate
  else if jumpOpcodes.contains opcode then .jump
  else if specialOpcodes.contains opcode then .special
  else .unknown

end Format

end MipsGloss
