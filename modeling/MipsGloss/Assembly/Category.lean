namespace MipsGloss

/-! Operations come in categories, whose members take their operands in the
same way. -/

inductive Category where
  | arithmetic
  | shift
  | variableShift
  | multiplyDivide
  | highLow
  | jumpTrap
  | immediate
  | memory
  | branch
  | loadImmediate
  | loadAddress
  | move
  | jump
  | bare
  | coprocessorMove
  | convert
  | floating
  deriving DecidableEq, Repr

namespace Category

def groups : List (Category × List String) :=
  [(.arithmetic, ["add", "addu", "sub", "subu", "and", "or", "xor", "nor",
      "slt", "sltu", "mul", "mulo", "mulou", "rem", "remu"]),
   (.shift, ["sll", "srl", "sra"]),
   (.variableShift, ["sllv", "srlv", "srav", "rol", "ror"]),
   (.multiplyDivide, ["mult", "multu", "div", "divu"]),
   (.highLow, ["mfhi", "mflo", "mthi", "mtlo"]),
   (.jumpTrap, ["jr", "jalr", "syscall", "break", "teq", "tge", "tgeu",
      "tlt", "tltu", "tne"]),
   (.immediate, ["addi", "addiu", "andi", "ori", "xori", "slti", "sltiu"]),
   (.memory, ["lw", "sw", "lb", "lbu", "lh", "lhu", "sb", "sh", "lwl", "lwr",
      "swl", "swr", "ld", "sd"]),
   (.branch, ["beq", "bne", "blez", "bgtz", "bltz", "bgez", "bltzal", "bgezal"]),
   (.loadImmediate, ["lui", "li"]),
   (.loadAddress, ["la"]),
   (.move, ["move", "not", "neg", "negu"]),
   (.jump, ["j", "jal"]),
   (.bare, ["nop", "rfe"]),
   (.coprocessorMove, ["mfc0", "mtc0", "mfc1", "mtc1", "mfc2", "mtc2"]),
   (.convert, ["cvt.s.w", "cvt.d.w", "cvt.w.s", "cvt.w.d"]),
   (.floating, ["add.s", "sub.s", "mul.s", "div.s", "add.d", "sub.d", "mul.d",
      "div.d"])]

/-! The table of operations is made by entering the groups one after the
other. A name that is entered again takes the later group. -/

def enter (table : List (String × κ)) (group : κ × List String) :
    List (String × κ) :=
  group.2.foldl (fun table name => (name, group.1) :: table) table

def index (groups : List (κ × List String)) : List (String × κ) :=
  groups.foldl enter []

def table : List (String × Category) := index groups

def ofOperation? (operation : String) : Option Category :=
  table.lookup operation

/-- The categories whose operations are encoded with a function code. -/
def hasFunct : Category → Bool
  | .arithmetic | .shift | .variableShift | .multiplyDivide | .highLow
  | .jumpTrap => true
  | _ => false

end Category

end MipsGloss
