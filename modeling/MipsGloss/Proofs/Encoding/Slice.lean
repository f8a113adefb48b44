import MipsGloss.Proofs.Encoding.Fields

namespace MipsGloss

/-! Where the segments of a word lie in it. A slice is a run of bits, counted from the
least significant one; its digits and its value follow from the number of the word. -/

/-- A named run of bits, from `high` down to `low`. The runs that select a register have
five bits. -/
structure Slice where
  name : String
  high : Nat
  low : Nat
  isRegister : Bool
  ordered : low ≤ high
  inside : high < 32
  fiveBits : isRegister = true → high = low + 4

namespace Slice

def plain (name : String) (high low : Nat) (ordered : low ≤ high := by decide)
    (inside : high < 32 := by decide) : Slice :=
  ⟨name, high, low, false, ordered, inside, nofun⟩

def register (name : String) (high low : Nat) (fiveBits : high = low + 4 := by decide)
    (inside : high < 32 := by decide) : Slice :=
  ⟨name, high, low, true, by omega, inside, fun _ => fiveBits⟩

def width (slice : Slice) : Nat := slice.high - slice.low + 1

def value (slice : Slice) (word : Word) : Nat :=
  word.toNat / 2 ^ slice.low % 2 ^ (slice.high - slice.low + 1)

/-- The digits of a word between the ends of the slice. -/
def digits (slice : Slice) (word : Word) : String :=
  String.ofList (((Bits.digits word).drop (31 - slice.high)).take slice.width)

def segment (word : Word) (slice : Slice) : Segment :=
  ⟨slice.name, slice.width, word.extractLsb' slice.low slice.width, slice.isRegister⟩

end Slice

/-! ## The slices of a format -/

namespace Format

end Format

namespace Fields

end Fields

end MipsGloss
