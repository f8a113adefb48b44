import MipsGloss.Word

namespace MipsGloss

/-! The thirty-two general purpose registers, numbered by a five bit code. -/

abbrev Register := BitVec 5

namespace Register

def names : List String :=
  ["zero", "at", "v0", "v1", "a0", "a1", "a2", "a3",
   "t0", "t1", "t2", "t3", "t4", "t5", "t6", "t7",
   "s0", "s1", "s2", "s3", "s4", "s5", "s6", "s7",
   "t8", "t9", "k0", "k1", "gp", "sp", "fp", "ra"]

def name (register : Register) : String :=
  names.get ⟨register.toNat, register.isLt⟩

def all : List Register := (List.range 32).map (BitVec.ofNat 5)

def ofCode? (code : String) : Option Register := Bits.ofDigits? 5 code.toList

/-- What stands in the place of a name that is not there. -/
def unknownName : String := "unknown"

/-- The name of the register with the given code text. -/
def nameOfCode (code : String) : String :=
  match ofCode? code with
  | some register => register.name
  | none => unknownName

end Register

end MipsGloss
