import MipsGloss.Assembly.Funct
import MipsGloss.Assembly.Gloss
import MipsGloss.Encoding.Instruction
import MipsGloss.Listing.Block
import MipsGloss.Word.Hexadecimal

namespace MipsGloss

/-! A text is explained in one of two modes: as a machine word or as a line of
assembly. -/

inductive Mode where
  | word
  | assembly
  deriving DecidableEq, Repr

namespace Mode

def name : Mode → String
  | .word => "hex"
  | .assembly => "asm"

def ofName? (text : String) : Option Mode :=
  [Mode.word, Mode.assembly].find? (·.name == text)

end Mode

/-! A lexicon supplies the two conversions that explanations rest on: from a
spelled word to its binary digits, and from an operation to its function
code. -/

structure Lexicon where
  digits : String → Except InvalidHexadecimal String
  functs : FunctLookup

def Lexicon.standard : Lexicon where
  digits text := (Word.ofHexadecimal text).map Bits.text
  functs := Funct.text?

/-- Why a text is no machine word. -/
inductive WordError where
  | spelling (error : InvalidHexadecimal)
  | encoding (error : EncodingError)
  deriving DecidableEq, Repr

def WordError.message : WordError → String
  | .spelling error => "failed to translate instruction: " ++ error.message
  | .encoding error => "failed to classify instruction: " ++ error.message

/-- Reads a machine word. Thirty-two binary digits are taken as they are, and
every other text is looked up first. -/
def Instruction.ofText (lexicon : Lexicon) (text : String) :
    Except WordError Instruction :=
  match Bits.ofDigits? 32 text.toList with
  | some word => .ok (Instruction.ofWord word)
  | none =>
    match lexicon.digits text with
    | .error error => .error (.spelling error)
    | .ok digits =>
      match Instruction.ofDigits digits with
      | .error error => .error (.encoding error)
      | .ok instruction => .ok instruction

/-! A report is the explanation of one input. A single text has one of the two
views, an instruction of a listing has both where both can be had. -/

structure Report where
  input : String
  mode : String
  address : String
  block : String
  binary : Option Instruction
  assembly : Option Gloss
  deriving DecidableEq, Repr

inductive ExplainError where
  | word (error : WordError)
  | operand (error : OperandError)
  deriving DecidableEq, Repr

def ExplainError.message : ExplainError → String
  | .word error => error.message
  | .operand error => "failed to decode assembly: " ++ error.message

namespace Report

def ofInstruction (input : String) (instruction : Instruction) : Report :=
  { input, mode := Mode.word.name, address := "", block := ""
    binary := some instruction, assembly := none }

def ofGloss (input : String) (gloss : Gloss) : Report :=
  { input, mode := Mode.assembly.name, address := "", block := ""
    binary := none, assembly := some gloss }

/-- Explains a text, which may stand between blanks. -/
def explain (lexicon : Lexicon) (mode : Mode) (text : String) :
    Except ExplainError Report :=
  let input := Text.trim text
  match mode with
  | .word =>
    match Instruction.ofText lexicon input with
    | .error error => .error (.word error)
    | .ok instruction => .ok (ofInstruction input instruction)
  | .assembly =>
    match Gloss.ofLine lexicon.functs input with
    | .error error => .error (.operand error)
    | .ok gloss => .ok (ofGloss input gloss)

/-- Explains an instruction of a listing from its word and from its text. A
view that cannot be had is left out. -/
def ofEntry (lexicon : Lexicon) (block : Listing.Block)
    (entry : Listing.Entry) : Report :=
  { input := entry.text
    mode := Mode.word.name
    address := entry.addressText
    block := block.label
    binary := (Instruction.ofText lexicon entry.word).toOption
    assembly := (Gloss.ofLine lexicon.functs entry.text).toOption }

def ofBlock (lexicon : Lexicon) (block : Listing.Block) : List Report :=
  block.entries.map (ofEntry lexicon block)

/-- One report for each instruction of a listing, in order. -/
def ofBlocks (lexicon : Lexicon) (blocks : List Listing.Block) :
    List Report :=
  blocks.flatMap (ofBlock lexicon)

end Report

end MipsGloss
