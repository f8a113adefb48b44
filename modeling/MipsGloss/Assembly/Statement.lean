import MipsGloss.Assembly.Operand
import MipsGloss.Text.Casing

namespace MipsGloss

/-! A statement is a line of assembly taken apart: an operation, in lower case
whatever its spelling, and operands, which are kept as written. -/

structure Statement where
  operation : String
  operands : List String
  deriving DecidableEq, Repr

namespace Statement

def isInk (character : Char) : Bool := !Text.isBlank character

def ofLine (line : String) : Statement :=
  let characters := Text.trimCharacters line.toList
  { operation := Text.lower (String.ofList (characters.takeWhile isInk))
    operands :=
      Operand.split (String.ofList (characters.dropWhile isInk)) }

/-- Writes a statement, with a comma between its operands. -/
def text (statement : Statement) : String :=
  if statement.operands.isEmpty then statement.operation
  else statement.operation ++ " " ++ ", ".intercalate statement.operands

end Statement

end MipsGloss
