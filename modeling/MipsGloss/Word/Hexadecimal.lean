import MipsGloss.Text.Blank
import MipsGloss.Word

namespace MipsGloss

/-! Words are usually spelled in hexadecimal: up to eight digits in either
letter case, which may stand behind a `0x` or `0X` mark and between blanks.
Fewer digits leave the high bits zero. -/

/-- A text that spells no word, without its blanks and its mark. -/
structure InvalidHexadecimal where
  spelling : String
  deriving DecidableEq, Repr

def InvalidHexadecimal.message (error : InvalidHexadecimal) : String :=
  "invalid hexadecimal instruction: " ++ Text.quote error.spelling

namespace Word

/-- Takes a mark away from the front of a text, if it stands there. -/
def dropMark (mark characters : List Char) : List Char :=
  if mark.isPrefixOf characters then characters.drop mark.length
  else characters

/-- What is left of a spelling without blanks and marks. The small mark is
looked for first, and the capital one may follow it. -/
def hexadecimalDigits (text : String) : List Char :=
  dropMark ['0', 'X'] (dropMark ['0', 'x'] (Text.trimCharacters text.toList))

def ofHexadecimal (text : String) : Except InvalidHexadecimal Word :=
  let digits := hexadecimalDigits text
  if digits ≠ [] ∧ digits.length ≤ 8 ∧ digits.all Text.isHexDigit then
    .ok (BitVec.ofNat 32 (Text.numeralValue 16 digits))
  else
    .error ⟨String.ofList digits⟩

end Word

end MipsGloss
