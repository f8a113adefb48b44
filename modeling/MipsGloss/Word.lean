import MipsGloss.Text.Lines
import MipsGloss.Text.Quoted

namespace MipsGloss

/-! Bit vectors are shown as binary digits, most significant digit first. -/

namespace Bits

def digit (bit : Bool) : Char := if bit then '1' else '0'

def digits (bits : BitVec width) : List Char :=
  (List.range width).map fun position => digit (bits.getMsbD position)

def text (bits : BitVec width) : String := String.ofList (digits bits)

/-- The vector that the given digits spell, when they are `width` binary
digits and nothing else. -/
def ofDigits? (width : Nat) (characters : List Char) : Option (BitVec width) :=
  if characters.length = width ∧ characters.all Text.isBinaryDigit then
    some (BitVec.ofNat width (Text.numeralValue 2 characters))
  else none

end Bits

/-! A word is one encoded instruction. Its text form has thirty-two binary
digits. -/

abbrev Word := BitVec 32

/-- What keeps a text from being the digits of a word: its length in bytes, or
the first character that is no binary digit. -/
inductive EncodingError where
  | length (bytes : Nat)
  | digit (found : Char) (position : Nat)
  deriving DecidableEq, Repr

def EncodingError.message : EncodingError → String
  | .length bytes =>
    "invalid instruction encoding: expected 32 bits, got " ++ Text.decimal bytes
  | .digit found position =>
    "invalid instruction encoding: non-binary digit " ++ Text.quoteOne found ++
      " at bit " ++ Text.decimal position

namespace Word

/-- Reads the digits of a word. The length is checked first and counts bytes,
so that a text of thirty-two bytes may still hold fewer characters. -/
def ofDigits (text : String) : Except EncodingError Word :=
  let characters := text.toList
  if Text.byteLength characters ≠ 32 then
    .error (.length (Text.byteLength characters))
  else
    match characters.dropWhile Text.isBinaryDigit with
    | found :: _ =>
      .error (.digit found (characters.takeWhile Text.isBinaryDigit).length)
    | [] => .ok (BitVec.ofNat 32 (Text.numeralValue 2 characters))

/-! The slices of a word that instruction formats are made of, named for the
part they play in most of them. -/

def opcode (word : Word) : BitVec 6 := word.extractLsb' 26 6

def rs (word : Word) : BitVec 5 := word.extractLsb' 21 5

def rt (word : Word) : BitVec 5 := word.extractLsb' 16 5

def rd (word : Word) : BitVec 5 := word.extractLsb' 11 5

def shamt (word : Word) : BitVec 5 := word.extractLsb' 6 5

def funct (word : Word) : BitVec 6 := word.extractLsb' 0 6

def code (word : Word) : BitVec 10 := word.extractLsb' 6 10

def immediate (word : Word) : BitVec 16 := word.extractLsb' 0 16

def address (word : Word) : BitVec 26 := word.extractLsb' 0 26

end Word

end MipsGloss
