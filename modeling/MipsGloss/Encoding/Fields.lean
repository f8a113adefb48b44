import MipsGloss.Encoding.Format
import MipsGloss.Register

namespace MipsGloss

/-! The fields of an instruction are its word, sliced as its format says. The
three coprocessors share one format and are told apart by the opcode; a word of
that format with another opcode is kept whole. -/

inductive Fields where
  | register (opcode : BitVec 6) (rs rt rd shamt : BitVec 5) (funct : BitVec 6)
  | registerTrap (opcode : BitVec 6) (rs rt : BitVec 5) (code : BitVec 10)
      (funct : BitVec 6)
  | immediate (opcode : BitVec 6) (rs rt : BitVec 5) (value : BitVec 16)
  | immediateTrap (opcode : BitVec 6) (rs selector : BitVec 5)
      (value : BitVec 16)
  | jump (opcode : BitVec 6) (address : BitVec 26)
  | systemControl (opcode : BitVec 6) (rs rt rd : BitVec 5) (funct : BitVec 6)
  | floatingPoint (opcode : BitVec 6) (fmt ft fs fd : BitVec 5)
      (funct : BitVec 6)
  | extension (opcode : BitVec 6) (rs rt rd : BitVec 5) (funct : BitVec 6)
  | whole (word : Word)
  | unknown (opcode : BitVec 6)
  deriving DecidableEq, Repr

/-- A named slice of a word. The bits of a register slice select a general
purpose register. -/
structure Segment where
  name : String
  width : Nat
  bits : BitVec width
  isRegister : Bool
  deriving DecidableEq, Repr

namespace Segment

def plain (name : String) {width : Nat} (bits : BitVec width) : Segment :=
  ⟨name, width, bits, false⟩

def register (name : String) (bits : Register) : Segment :=
  ⟨name, 5, bits, true⟩

def text (segment : Segment) : String := Bits.text segment.bits

end Segment

namespace Fields

def ofSpecial (word : Word) : Fields :=
  if word.opcode = Format.systemControlOpcode then
    .systemControl word.opcode word.rs word.rt word.rd word.funct
  else if word.opcode = Format.floatingPointOpcode then
    .floatingPoint word.opcode word.rs word.rt word.rd word.shamt word.funct
  else if word.opcode = Format.extensionOpcode then
    .extension word.opcode word.rs word.rt word.rd word.funct
  else
    .whole word

/-- Slices a word as the given format says, also where the word has another
format. -/
def ofWord (format : Format) (word : Word) : Fields :=
  match format with
  | .register =>
    .register word.opcode word.rs word.rt word.rd word.shamt word.funct
  | .registerTrap =>
    .registerTrap word.opcode word.rs word.rt word.code word.funct
  | .immediate => .immediate word.opcode word.rs word.rt word.immediate
  | .immediateTrap => .immediateTrap word.opcode word.rs word.rt word.immediate
  | .jump => .jump word.opcode word.address
  | .special => ofSpecial word
  | .unknown => .unknown word.opcode

def format : Fields → Format
  | .register .. => .register
  | .registerTrap .. => .registerTrap
  | .immediate .. => .immediate
  | .immediateTrap .. => .immediateTrap
  | .jump .. => .jump
  | .systemControl .. => .special
  | .floatingPoint .. => .special
  | .extension .. => .special
  | .whole .. => .special
  | .unknown .. => .unknown

/-- The slices in the order of the word, most significant first. -/
def segments : Fields → List Segment
  | .register opcode rs rt rd shamt funct =>
    [.plain "opcode" opcode, .register "rs" rs, .register "rt" rt,
     .register "rd" rd, .plain "shamt" shamt, .plain "funct" funct]
  | .registerTrap opcode rs rt code funct =>
    [.plain "opcode" opcode, .register "rs" rs, .register "rt" rt,
     .plain "code" code, .plain "funct" funct]
  | .immediate opcode rs rt value =>
    [.plain "opcode" opcode, .register "rs" rs, .register "rt" rt,
     .plain "immediate" value]
  | .immediateTrap opcode rs selector value =>
    [.plain "opcode" opcode, .register "rs" rs, .plain "rt" selector,
     .plain "immediate" value]
  | .jump opcode address => [.plain "opcode" opcode, .plain "address" address]
  | .systemControl opcode rs rt rd funct
  | .extension opcode rs rt rd funct =>
    [.plain "opcode" opcode, .plain "rs" rs, .register "rt" rt,
     .plain "rd" rd, .plain "funct" funct]
  | .floatingPoint opcode fmt ft fs fd funct =>
    [.plain "opcode" opcode, .plain "fmt" fmt, .plain "ft" ft,
     .plain "fs" fs, .plain "fd" fd, .plain "funct" funct]
  | .whole word =>
    [.plain "opcode" word.opcode, .plain "binary" word.address]
  | .unknown opcode => [.plain "opcode" opcode]

/-- The number of the coprocessor that an instruction is for. -/
def coprocessor? : Fields → Option String
  | .systemControl .. => some "0"
  | .floatingPoint .. => some "1"
  | .extension .. => some "2"
  | _ => none

/-- The record that reports show: named members in a fixed order, with the
condition of a trap absent where the selector names none. -/
def members : Fields → List (String × Option String)
  | .register opcode rs rt rd shamt funct =>
    [("opcode", Bits.text opcode), ("rs", Bits.text rs), ("rt", Bits.text rt),
     ("rd", Bits.text rd), ("shamt", Bits.text shamt), ("funct", Bits.text funct)]
  | .registerTrap opcode rs rt code funct =>
    [("opcode", Bits.text opcode), ("rs", Bits.text rs), ("rt", Bits.text rt),
     ("code", Bits.text code), ("funct", Bits.text funct)]
  | .immediate opcode rs rt value =>
    [("opcode", Bits.text opcode), ("rs", Bits.text rs), ("rt", Bits.text rt),
     ("immediate", Bits.text value)]
  | .immediateTrap opcode rs selector value =>
    [("opcode", Bits.text opcode), ("rs", Bits.text rs),
     ("rtBinary", Bits.text selector), ("rtName", Format.trapCondition? selector),
     ("immediate", Bits.text value)]
  | .jump opcode address =>
    [("opcode", Bits.text opcode), ("address", Bits.text address)]
  | .systemControl opcode rs rt rd funct =>
    [("opcode", Bits.text opcode), ("rs", Bits.text rs), ("rt", Bits.text rt),
     ("rd", Bits.text rd), ("funct", Bits.text funct), ("coprocessor", "0")]
  | .floatingPoint opcode fmt ft fs fd funct =>
    [("opcode", Bits.text opcode), ("fmt", Bits.text fmt), ("ft", Bits.text ft),
     ("fs", Bits.text fs), ("fd", Bits.text fd), ("funct", Bits.text funct),
     ("coprocessor", "1")]
  | .extension opcode rs rt rd funct =>
    [("opcode", Bits.text opcode), ("coprocessor", "2"), ("rs", Bits.text rs),
     ("rt", Bits.text rt), ("rd", Bits.text rd), ("funct", Bits.text funct)]
  | .whole word =>
    [("opcode", Bits.text word.opcode), ("binary", Bits.text word)]
  | .unknown opcode => [("opcode", Bits.text opcode)]

end Fields

end MipsGloss
