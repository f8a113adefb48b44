import MipsGloss.Text.Blank
import MipsGloss.Text.Quoted

namespace MipsGloss

/-! Operands are separated by commas and blanks, except inside parentheses, so
that an offset and its base register stay together. The depth of parentheses
never falls below zero, and a parenthesis left open keeps the rest of the text
in one operand. -/

namespace Operand

def depthAfter (depth : Nat) (character : Char) : Nat :=
  if character = '(' then depth + 1
  else if character = ')' then depth - 1
  else depth

def isSeparator (depth : Nat) (character : Char) : Bool :=
  depth == 0 && (character == ',' || Text.isBlank character)

/-- Puts an operand in front of others, unless it is empty. -/
def prepend (operand : List Char) (others : List (List Char)) :
    List (List Char) :=
  if operand.isEmpty then others else operand :: others

/-- Splits characters that begin at the given depth. The first part is the
rest of an operand that is already under way, the second the operands behind
it. -/
def scan (depth : Nat) : List Char → List Char × List (List Char)
  | [] => ([], [])
  | character :: rest =>
    if isSeparator depth character then
      let (operand, others) := scan depth rest
      ([], prepend operand others)
    else
      let (operand, others) := scan (depthAfter depth character) rest
      (character :: operand, others)

def splitCharacters (characters : List Char) : List (List Char) :=
  let (operand, others) := scan 0 characters
  prepend operand others

def split (text : String) : List String :=
  (splitCharacters text.toList).map String.ofList

end Operand

/-! An address operand is an offset, which may be empty, and a base register
in parentheses. -/

structure Address where
  offset : String
  base : String
  deriving DecidableEq, Repr

/-- What is wrong with an address operand, in the order of the checks. -/
inductive AddressFault where
  | missing
  | noOpening
  | noClosing
  | unbalanced
  | badBase
  deriving DecidableEq, Repr

def AddressFault.reason : AddressFault → String
  | .missing => "missing offset(base) operand"
  | .noOpening => "missing '('"
  | .noClosing => "missing ')'"
  | .unbalanced => "unbalanced parentheses"
  | .badBase => "invalid base register"

namespace Address

def isParenthesis (character : Char) : Bool :=
  character == '(' || character == ')'

def ofOperand (operand : String) : Except AddressFault Address :=
  let characters := operand.toList
  let offset := characters.takeWhile (· != '(')
  match characters.dropWhile (· != '(') with
  | [] => .error .noOpening
  | _ :: inner =>
    if characters.getLast? ≠ some ')' then .error .noClosing
    else if offset.contains ')' then .error .unbalanced
    else
      let base := inner.dropLast
      if base.isEmpty ∨ base.any isParenthesis then .error .badBase
      else .ok ⟨String.ofList offset, String.ofList base⟩

/-- The address among the operands of a memory instruction is the second. -/
def ofOperands : List String → Except AddressFault Address
  | _ :: operand :: _ => ofOperand operand
  | _ => .error .missing

end Address

/-- An operand that an operation cannot use. -/
structure OperandError where
  operation : String
  token : String
  fault : AddressFault
  deriving DecidableEq, Repr

def OperandError.message (error : OperandError) : String :=
  "malformed operand: " ++ error.operation ++ ": operand " ++
    Text.quote error.token ++ ": " ++ error.fault.reason

end MipsGloss
