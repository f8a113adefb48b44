import MipsGloss.Text.Casing
import MipsGloss.Word

namespace MipsGloss

/-! Function codes: the last six bits of the words of register operations. -/

namespace Funct

def codes : List (String × BitVec 6) :=
  [("sll", 0b000000#6), ("srl", 0b000010#6), ("sra", 0b000011#6),
   ("sllv", 0b000100#6), ("srlv", 0b000110#6), ("srav", 0b000111#6),
   ("jr", 0b001000#6), ("jalr", 0b001001#6),
   ("syscall", 0b001100#6), ("break", 0b001101#6),
   ("mfhi", 0b010000#6), ("mthi", 0b010001#6),
   ("mflo", 0b010010#6), ("mtlo", 0b010011#6),
   ("mult", 0b011000#6), ("multu", 0b011001#6),
   ("div", 0b011010#6), ("divu", 0b011011#6),
   ("add", 0b100000#6), ("addu", 0b100001#6),
   ("sub", 0b100010#6), ("subu", 0b100011#6),
   ("and", 0b100100#6), ("or", 0b100101#6),
   ("xor", 0b100110#6), ("nor", 0b100111#6),
   ("slt", 0b101010#6), ("sltu", 0b101011#6),
   ("tge", 0b110000#6), ("tgeu", 0b110001#6),
   ("tlt", 0b110010#6), ("tltu", 0b110011#6),
   ("teq", 0b110100#6), ("tne", 0b110110#6),
   ("mul", 0b000010#6)]

/-- The function code of an operation, whatever its letter case. -/
def code? (operation : String) : Option (BitVec 6) :=
  codes.lookup (Text.lower operation)

def text? (operation : String) : Option String :=
  (code? operation).map Bits.text

end Funct

end MipsGloss
