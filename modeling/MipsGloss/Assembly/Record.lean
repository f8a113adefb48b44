import MipsGloss.Assembly.Category
import MipsGloss.Assembly.Operand

namespace MipsGloss

/-! A record holds what the operands of a statement stand for. Its slots depend
on the operation alone; a slot is empty where the statement has too few
operands or the operation has no use for it. -/

inductive Slot where
  | rs
  | rt
  | rd
  | shamt
  | funct
  | immediate
  | offset
  | address
  | coprocessor
  | fd
  | fs
  | ft
  | precision
  deriving DecidableEq, Repr

def Slot.name : Slot → String
  | .rs => "rs"
  | .rt => "rt"
  | .rd => "rd"
  | .shamt => "shamt"
  | .funct => "funct"
  | .immediate => "immediate"
  | .offset => "offset"
  | .address => "address"
  | .coprocessor => "coprocessor"
  | .fd => "fd"
  | .fs => "fs"
  | .ft => "ft"
  | .precision => "precision"

abbrev Record := List (Slot × Option String)

namespace Record

def names (record : Record) : List String := record.map (·.1.name)

/-- The entry of the named slot, if the record declares it. -/
def entry? (record : Record) (name : String) : Option (Option String) :=
  (record.find? (·.1.name == name)).map (·.2)

def value? (record : Record) (name : String) : Option String :=
  (record.entry? name).join

def get (record : Record) (slot : Slot) : Option String :=
  (record.lookup slot).join

end Record

/-- How an empty slot reads. -/
def emptySlotText : String := "n/a"

def slotText (value : Option String) : String := value.getD emptySlotText

/-! A layout says where the value of each slot comes from. Operands are counted
from zero. -/

inductive Source where
  | operand (index : Nat)
  | offset
  | base
  | constant (text : String)
  | funct
  | absent
  deriving DecidableEq, Repr

abbrev Layout := List (Slot × Source)

/-- Answers the function code of an operation, where it knows one. -/
abbrev FunctLookup := String → Option String

def Source.value (functs : FunctLookup) (operation : String)
    (operands : List String) : Source → Option String
  | .operand index => operands[index]?
  | .offset => (Address.ofOperands operands).toOption.map (·.offset)
  | .base => (Address.ofOperands operands).toOption.map (·.base)
  | .constant text => some text
  | .funct => functs operation
  | .absent => none

namespace Layout

def first : Source := .operand 0

def second : Source := .operand 1

def third : Source := .operand 2

def zero : Source := .constant "0"

/-- The record that all operations with a function code share. -/
def registers (rs rt rd shamt : Source) : Layout :=
  [(.rs, rs), (.rt, rt), (.rd, rd), (.shamt, shamt), (.funct, .funct)]

/-- The digit that ends the name of a coprocessor move. -/
def coprocessorNumber (operation : String) : String :=
  String.ofList operation.toList.getLast?.toList

/-- The precision that the end of a name stands for. -/
def precision (operation : String) : String :=
  if operation.toList.getLast? = some 's' then "single" else "double"

/-- The layout of an operation. Only the jump that links its return address
looks at the number of operands: with one, it is the target. -/
def ofOperation (category : Category) (operation : String)
    (operandCount : Nat) : Layout :=
  match category with
  | .arithmetic => registers second third first zero
  | .shift => registers .absent second first third
  | .variableShift => registers third second first zero
  | .multiplyDivide => registers first second .absent zero
  | .highLow =>
    if ["mfhi", "mflo"].contains operation then
      registers .absent .absent first zero
    else registers first .absent .absent zero
  | .jumpTrap =>
    if operation = "jr" then registers first .absent .absent zero
    else if operation = "jalr" then
      if operandCount > 1 then registers second .absent first zero
      else registers first .absent .absent zero
    else if ["syscall", "break"].contains operation then
      registers .absent .absent .absent zero
    else registers first second .absent zero
  | .immediate => [(.rt, first), (.rs, second), (.immediate, third)]
  | .memory => [(.rt, first), (.offset, .offset), (.rs, .base)]
  | .branch =>
    if ["beq", "bne"].contains operation then
      [(.rs, first), (.rt, second), (.offset, third)]
    else [(.rs, first), (.rt, .absent), (.offset, second)]
  | .loadImmediate => [(.rt, first), (.immediate, second)]
  | .loadAddress => [(.rt, first), (.address, second)]
  | .move => [(.rd, first), (.rs, second)]
  | .jump => [(.address, first)]
  | .bare => []
  | .coprocessorMove =>
    [(.rt, first), (.rd, second),
     (.coprocessor, .constant (coprocessorNumber operation))]
  | .convert => [(.fd, first), (.fs, second)]
  | .floating =>
    [(.fd, first), (.fs, second), (.ft, third),
     (.precision, .constant (precision operation))]

def fill (functs : FunctLookup) (operation : String) (operands : List String)
    (layout : Layout) : Record :=
  layout.map fun (slot, source) => (slot, source.value functs operation operands)

end Layout

end MipsGloss
