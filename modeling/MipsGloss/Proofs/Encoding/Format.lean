import Mathlib.Tactic.SplitIfs
import MipsGloss.Encoding.Instruction
import MipsGloss.Proofs.Word

namespace MipsGloss

/-! Formats and the arithmetic of words. A format describes the words of certain
values; each value is described by one format, and that is the format in which its
word is read. -/

namespace Word

theorem toNat_opcode (word : Word) : word.opcode.toNat = word.toNat / 2 ^ 26 := by
  have bound := word.isLt
  rw [opcode, BitVec.extractLsb'_toNat, Nat.shiftRight_eq_div_pow]
  omega

theorem toNat_rt (word : Word) : word.rt.toNat = word.toNat / 2 ^ 16 % 32 := by
  rw [rt, BitVec.extractLsb'_toNat, Nat.shiftRight_eq_div_pow]

theorem toNat_funct (word : Word) : word.funct.toNat = word.toNat % 64 := by
  rw [funct, BitVec.extractLsb'_toNat, Nat.shiftRight_zero]

theorem opcode_eq_iff (word : Word) (opcode : BitVec 6) :
    word.opcode = opcode ↔ word.toNat / 2 ^ 26 = opcode.toNat := by
  rw [← BitVec.toNat_inj, toNat_opcode]

end Word

namespace Format

/-! ## Tables as numbers -/

def IsImmediateCode (code : Nat) : Prop :=
  code = 1 ∨ (4 ≤ code ∧ code ≤ 15) ∨ (32 ≤ code ∧ code ≤ 38) ∨
    (40 ≤ code ∧ code ≤ 43) ∨ code = 46 ∨ code = 55 ∨ code = 63
  deriving Decidable

def IsJumpCode (code : Nat) : Prop := code = 2 ∨ code = 3
  deriving Decidable

def IsSpecialCode (code : Nat) : Prop := 16 ≤ code ∧ code ≤ 19
  deriving Decidable

def IsTrapSelector (selector : Nat) : Prop :=
  (8 ≤ selector ∧ selector ≤ 12) ∨ selector = 14
  deriving Decidable

def IsTrapFunct (funct : Nat) : Prop := (48 ≤ funct ∧ funct ≤ 52) ∨ funct = 54
  deriving Decidable

theorem contains_immediateOpcodes (opcode : BitVec 6) :
    immediateOpcodes.contains opcode = true ↔ IsImmediateCode opcode.toNat := by
  decide +revert +kernel

theorem contains_jumpOpcodes (opcode : BitVec 6) :
    jumpOpcodes.contains opcode = true ↔ IsJumpCode opcode.toNat := by
  decide +revert

theorem contains_specialOpcodes (opcode : BitVec 6) :
    specialOpcodes.contains opcode = true ↔ IsSpecialCode opcode.toNat := by
  decide +revert

theorem contains_trapFunctions (funct : BitVec 6) :
    trapFunctions.contains funct = true ↔ IsTrapFunct funct.toNat := by
  decide +revert

theorem isSome_trapCondition? (selector : BitVec 5) :
    (trapCondition? selector).isSome = true ↔ IsTrapSelector selector.toNat := by
  decide +revert

/-! ## Values of a format -/

/-- The values of the words of a format: the opcode is what is left above the low
twenty-six bits, and only below the two opcodes that have traps does another slice
count. -/
def Describes : Format → Nat → Prop
  | .register, value => value / 2 ^ 26 = 0 ∧ ¬ IsTrapFunct (value % 64)
  | .registerTrap, value => value / 2 ^ 26 = 0 ∧ IsTrapFunct (value % 64)
  | .immediate, value =>
    IsImmediateCode (value / 2 ^ 26) ∧
      ¬ (value / 2 ^ 26 = 1 ∧ IsTrapSelector (value / 2 ^ 16 % 32))
  | .immediateTrap, value => value / 2 ^ 26 = 1 ∧ IsTrapSelector (value / 2 ^ 16 % 32)
  | .jump, value => IsJumpCode (value / 2 ^ 26)
  | .special, value => IsSpecialCode (value / 2 ^ 26)
  | .unknown, value =>
    value / 2 ^ 26 ≠ 0 ∧ ¬ IsImmediateCode (value / 2 ^ 26) ∧
      ¬ IsJumpCode (value / 2 ^ 26) ∧ ¬ IsSpecialCode (value / 2 ^ 26)

/-- No value is described by two formats. -/
theorem Describes.unique {value : Nat} {left right : Format}
    (leftDescribes : left.Describes value) (rightDescribes : right.Describes value) :
    left = right := by
  revert leftDescribes rightDescribes
  cases left <;> cases right <;>
    simp only [Describes, IsImmediateCode, IsJumpCode, IsSpecialCode, IsTrapSelector,
      IsTrapFunct, reduceCtorEq, implies_true] <;>
    intros <;> omega

theorem describes_ofWord (word : Word) : (ofWord word).Describes word.toNat := by
  have function : word.opcode = functionOpcode ↔ word.toNat / 2 ^ 26 = 0 :=
    word.opcode_eq_iff functionOpcode
  have selector : word.opcode = selectorOpcode ↔ word.toNat / 2 ^ 26 = 1 :=
    word.opcode_eq_iff selectorOpcode
  simp only [ofWord, function, selector, contains_immediateOpcodes, contains_jumpOpcodes,
    contains_specialOpcodes, contains_trapFunctions, isSome_trapCondition?,
    Word.toNat_opcode, Word.toNat_rt, Word.toNat_funct]
  split_ifs with zero trap immediate immediateTrap jump special
  · exact ⟨zero, trap⟩
  · exact ⟨zero, trap⟩
  · exact immediateTrap
  · exact ⟨immediate, immediateTrap⟩
  · exact jump
  · exact special
  · exact ⟨zero, immediate, jump, special⟩

theorem ofWord_eq_iff (word : Word) (format : Format) :
    ofWord word = format ↔ format.Describes word.toNat := by
  constructor
  · rintro rfl
    exact describes_ofWord word
  · exact (describes_ofWord word).unique

theorem ofName?_name (format : Format) : ofName? format.name = some format := by
  cases format <;> decide

end Format

/-! ## Reading digits -/

namespace Fields

theorem format_ofWord (format : Format) (word : Word) :
    (ofWord format word).format = format := by
  cases format with
  | special =>
      rw [ofWord, ofSpecial]
      split_ifs <;> rfl
  | _ => rfl

theorem ofDigits_text (format : Format) (word : Word) :
    ofDigits format.name (Bits.text word) = .ok (ofWord format word) := by
  rw [ofDigits, Instruction.ofDigitsAs, Word.ofDigits_text, Format.ofName?_name]
  rfl

end Fields

namespace Instruction

theorem ofDigits_text (word : Word) : ofDigits (Bits.text word) = .ok (ofWord word) := by
  rw [ofDigits, Word.ofDigits_text]
  rfl

/-- What is known of the instruction that is read from the digits of a value. -/
structure Classified (value : Nat) (text : String) (instruction : Instruction) : Prop where
  format : ∀ format, instruction.format = format ↔ format.Describes value
  opcode : (Bits.text instruction.opcode).toList = text.toList.take 6
  fields : Fields.ofDigits instruction.format.name text = .ok instruction.fields
  fieldsFormat : instruction.fields.format = instruction.format
  /-- A trap on an immediate names its condition. -/
  condition : instruction.format = .immediateTrap →
    ∃ name, instruction.fields.members.lookup "rtName" = some (some name)

theorem lookup_rtName (word : Word) :
    (Fields.ofWord .immediateTrap word).members.lookup "rtName" =
      some (Format.trapCondition? word.rt) := rfl

theorem classified_ofWord (word : Word) :
    Classified word.toNat (Bits.text word) (ofWord word) where
  format := Format.ofWord_eq_iff word
  opcode := by
    change (Bits.text word.opcode).toList = _
    rw [Bits.text, Bits.text, String.toList_ofList, String.toList_ofList, Word.digits_opcode]
  fields := Fields.ofDigits_text (Format.ofWord word) word
  fieldsFormat := Fields.format_ofWord (Format.ofWord word) word
  condition := by
    intro trap
    have format : Format.ofWord word = .immediateTrap := trap
    have selector : Format.IsTrapSelector word.rt.toNat := by
      rw [Word.toNat_rt]
      exact ((Format.ofWord_eq_iff word .immediateTrap).mp format).2
    rcases Option.isSome_iff_exists.mp ((Format.isSome_trapCondition? word.rt).mpr selector)
      with ⟨name, found⟩
    refine ⟨name, ?_⟩
    change (Fields.ofWord (Format.ofWord word) word).members.lookup "rtName" = _
    rw [format, lookup_rtName, found]

/-- Every value of thirty-two bits has one text of binary digits, and the digits are
read in the format that describes the value. -/
theorem ofDigits_of_spells {value : Nat} (fits : value < 2 ^ 32) :
    (∃! text, Bits.Spells 32 text value) ∧
      ∀ text, Bits.Spells 32 text value →
        ∃ instruction, ofDigits text = .ok instruction ∧ Classified value text instruction := by
  constructor
  · exact ⟨_, Bits.spells_text_ofNat fits, fun _ spelled => spelled.unique
      (Bits.spells_text_ofNat fits)⟩
  · intro text spelled
    have classified := classified_ofWord (BitVec.ofNat 32 value)
    rw [BitVec.toNat_ofNat, Nat.mod_eq_of_lt fits] at classified
    rw [spelled.eq_text]
    exact ⟨_, ofDigits_text _, classified⟩

theorem ofDigits_teqi :
    0x040c0007 < 2 ^ 32 ∧ Bits.Spells 32 "00000100000011000000000000000111" 0x040c0007 ∧
      ∃ instruction, ofDigits "00000100000011000000000000000111" = .ok instruction ∧
        Classified 0x040c0007 "00000100000011000000000000000111" instruction := by
  have spelled : Bits.Spells 32 "00000100000011000000000000000111" 0x040c0007 :=
    ⟨by decide +kernel, List.all_eq_true.mp (by decide +kernel), by decide +kernel⟩
  exact ⟨by decide, spelled, (ofDigits_of_spells (by decide)).2 _ spelled⟩

end Instruction

end MipsGloss
