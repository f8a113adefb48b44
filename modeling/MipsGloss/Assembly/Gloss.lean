import MipsGloss.Assembly.Explanation
import MipsGloss.Assembly.Statement

namespace MipsGloss

/-! A gloss is the explained form of one line of assembly. An operation that is
not in the table is no error: its gloss says so and has an empty record. -/

structure Gloss where
  operation : String
  explanation : String
  record : Record
  deriving DecidableEq, Repr

/-- Whether an operation is in the table, whatever its letter case. -/
def isKnownOperation (operation : String) : Bool :=
  (Category.ofOperation? (Text.lower operation)).isSome

namespace Gloss

def ofUnknown (operation : String) : Gloss :=
  { operation
    explanation := "Unknown instruction: " ++ operation
    record := [] }

/-- The complaint about the operands of a statement, if there is one. Only
memory operations are particular about theirs. -/
def complaint? (category : Category) (statement : Statement) :
    Option OperandError :=
  match category with
  | .memory =>
    match Address.ofOperands statement.operands with
    | .ok _ => none
    | .error fault =>
      some {
        operation := statement.operation
        token := statement.operands[1]?.getD (" ".intercalate statement.operands)
        fault }
  | _ => none

def ofKnown (functs : FunctLookup) (category : Category)
    (statement : Statement) : Gloss :=
  let layout :=
    Layout.ofOperation category statement.operation statement.operands.length
  let record := Layout.fill functs statement.operation statement.operands layout
  { operation := statement.operation
    explanation := Explanation.text category statement.operation record
    record }

def ofStatement (functs : FunctLookup) (statement : Statement) :
    Except OperandError Gloss :=
  match Category.ofOperation? statement.operation with
  | none => .ok (ofUnknown statement.operation)
  | some category =>
    match complaint? category statement with
    | some error => .error error
    | none => .ok (ofKnown functs category statement)

def ofLine (functs : FunctLookup) (line : String) : Except OperandError Gloss :=
  ofStatement functs (Statement.ofLine line)

end Gloss

end MipsGloss
