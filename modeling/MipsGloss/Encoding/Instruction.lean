import MipsGloss.Encoding.Fields

namespace MipsGloss

/-! A decoded machine word: its format, its opcode and its fields. -/

structure Instruction where
  format : Format
  opcode : BitVec 6
  fields : Fields
  deriving DecidableEq, Repr

/-- Why digits cannot be sliced as asked. A bad encoding is reported before a
format that does not exist. -/
inductive SliceError where
  | encoding (error : EncodingError)
  | format (name : String)
  deriving DecidableEq, Repr

def SliceError.message : SliceError → String
  | .encoding error => error.message
  | .format name => "unsupported instruction format: " ++ Text.quote name

namespace Instruction

/-- Reads a word in a given format. -/
def ofWordAs (format : Format) (word : Word) : Instruction :=
  ⟨format, word.opcode, Fields.ofWord format word⟩

/-- Reads a word in the format that is its own. -/
def ofWord (word : Word) : Instruction := ofWordAs (Format.ofWord word) word

def ofDigits (digits : String) : Except EncodingError Instruction :=
  (Word.ofDigits digits).map ofWord

/-- Reads digits in the format of the given name. -/
def ofDigitsAs (formatName : String) (digits : String) :
    Except SliceError Instruction :=
  match Word.ofDigits digits with
  | .error error => .error (.encoding error)
  | .ok word =>
    match Format.ofName? formatName with
    | none => .error (.format formatName)
    | some format => .ok (ofWordAs format word)

end Instruction

/-- The fields of a word, given by its digits, in the format of the given
name. -/
def Fields.ofDigits (formatName : String) (digits : String) :
    Except SliceError Fields :=
  (Instruction.ofDigitsAs formatName digits).map (·.fields)

end MipsGloss
