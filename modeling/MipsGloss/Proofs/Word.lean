import MipsGloss.Proofs.Text
import MipsGloss.Word

namespace MipsGloss

/-! Words and their binary digits. Every value that fits has one text of digits,
the text reads back as the word, and a slice of a word is shown by a slice of its
digits. -/

namespace Bits

theorem length_digits (bits : BitVec width) : (digits bits).length = width := by
  simp [digits]

theorem isBinaryDigit_of_mem_digits {bits : BitVec width} {character : Char}
    (member : character ∈ digits bits) : Text.isBinaryDigit character = true := by
  rcases List.mem_map.mp member with ⟨position, _, rfl⟩
  cases bit : bits.getMsbD position <;> decide

theorem digitValue?_digit (bit : Bool) :
    (Text.digitValue? (digit bit)).getD 0 = bit.toNat := by
  cases bit <;> decide

/-- The first digits spell the high bits. -/
theorem numeralValue_take_digits (bits : BitVec width) :
    ∀ count ≤ width,
      Text.numeralValue 2 ((List.range count).map fun position =>
        digit (bits.getMsbD position)) = bits.toNat / 2 ^ (width - count)
  | 0, _ => by
      simp [Text.numeralValue, Nat.div_eq_of_lt bits.isLt]
  | count + 1, bound => by
      have front := numeralValue_take_digits bits count (by omega)
      have position : width - count = width - (count + 1) + 1 := by omega
      have bit : (bits.getMsbD count).toNat =
          bits.toNat / 2 ^ (width - (count + 1)) % 2 := by
        have inside : count < width := bound
        rw [BitVec.getMsbD_eq_getLsbD, decide_eq_true inside, Bool.true_and,
          BitVec.getLsbD, Nat.toNat_testBit]
        congr 3
        omega
      rw [List.range_succ, List.map_append, List.map_singleton,
        Text.numeralValue_append_singleton, front, digitValue?_digit, bit, position,
        Nat.pow_succ, ← Nat.div_div_eq_div_mul]
      omega

theorem numeralValue_digits (bits : BitVec width) :
    Text.numeralValue 2 (digits bits) = bits.toNat := by
  rw [digits, numeralValue_take_digits bits width (Nat.le_refl width), Nat.sub_self,
    Nat.pow_zero, Nat.div_one]

theorem digits_injective {left right : BitVec width}
    (same : digits left = digits right) : left = right := by
  apply BitVec.eq_of_toNat_eq
  rw [← numeralValue_digits, ← numeralValue_digits, same]

theorem ofDigits?_digits (bits : BitVec width) : ofDigits? width (digits bits) = some bits := by
  have all : (digits bits).all Text.isBinaryDigit = true :=
    List.all_eq_true.mpr fun _ => isBinaryDigit_of_mem_digits
  rw [ofDigits?, if_pos ⟨length_digits bits, all⟩, numeralValue_digits, BitVec.ofNat_toNat,
    BitVec.setWidth_eq]

/-! ## Texts of digits -/

/-- The text is the numeral of a value with the given number of binary digits. -/
structure Spells (width : Nat) (text : String) (value : Nat) : Prop where
  length : text.toList.length = width
  binary : ∀ digit ∈ text.toList, Text.isBinaryDigit digit = true
  value : Text.numeralValue 2 text.toList = value

theorem spells_text (bits : BitVec width) : Spells width (text bits) bits.toNat := by
  rw [text]
  constructor
  · rw [String.toList_ofList, length_digits]
  · rw [String.toList_ofList]
    exact fun _ => isBinaryDigit_of_mem_digits
  · rw [String.toList_ofList, numeralValue_digits]

theorem spells_text_ofNat {value : Nat} (fits : value < 2 ^ width) :
    Spells width (text (BitVec.ofNat width value)) value := by
  have spelled := spells_text (BitVec.ofNat width value)
  rwa [BitVec.toNat_ofNat, Nat.mod_eq_of_lt fits] at spelled

theorem Spells.lt {text : String} {value : Nat} (spelled : Spells width text value) :
    value < 2 ^ width := by
  have bound := Text.numeralValue_lt_two_pow spelled.binary
  rwa [spelled.value, spelled.length] at bound

theorem Spells.unique {text other : String} {value : Nat} (spelled : Spells width text value)
    (otherSpelled : Spells width other value) : text = other := by
  apply String.toList_inj.mp
  exact Text.eq_of_numeralValue_eq spelled.binary otherSpelled.binary
    (spelled.length.trans otherSpelled.length.symm)
    (spelled.value.trans otherSpelled.value.symm)

theorem Spells.eq_text {text : String} {value : Nat} (spelled : Spells width text value) :
    text = Bits.text (BitVec.ofNat width value) :=
  spelled.unique (spells_text_ofNat spelled.lt)

/-! ## Slices -/

theorem getElem_digits (bits : BitVec width) (position : Nat)
    (inside : position < (digits bits).length) :
    (digits bits)[position] = digit (bits.getMsbD position) := by
  simp [digits]

/-- Slices count from the least significant bit, digits from the most significant one. -/
theorem digits_extractLsb' (bits : BitVec width) {start length : Nat}
    (inside : start + length ≤ width) :
    digits (bits.extractLsb' start length) =
      ((digits bits).drop (width - (start + length))).take length := by
  apply List.ext_getElem
  · rw [length_digits, List.length_take, List.length_drop, length_digits]
    omega
  · intro position left right
    rw [length_digits] at left
    have low : start + length - position ≤ width := by omega
    have place : width - (start + length - position) = width - (start + length) + position := by
      omega
    rw [getElem_digits, List.getElem_take, List.getElem_drop, getElem_digits,
      BitVec.getMsbD_extractLsb', decide_eq_true left, decide_eq_true low, Bool.true_and,
      Bool.true_and, place]

end Bits

namespace Word

theorem byteLength_of_isBinaryDigit {characters : List Char}
    (binary : ∀ character ∈ characters, Text.isBinaryDigit character = true) :
    Text.byteLength characters = characters.length := by
  induction characters with
  | nil => rfl
  | cons head tail induction =>
      have rest := induction fun character member =>
        binary character (List.mem_cons_of_mem head member)
      have single : head.utf8Size = 1 := by
        rcases Text.isBinaryDigit_iff.mp (binary head List.mem_cons_self) with
          rfl | rfl <;> decide
      rw [Text.byteLength] at rest ⊢
      rw [List.foldr_cons, rest, single, List.length_cons, Nat.add_comm]

theorem byteLength_digits (bits : BitVec width) :
    Text.byteLength (Bits.digits bits) = width := by
  rw [byteLength_of_isBinaryDigit fun _ => Bits.isBinaryDigit_of_mem_digits,
    Bits.length_digits]

/-- A word reads back from its own digits. -/
theorem ofDigits_text (word : Word) : ofDigits (Bits.text word) = .ok word := by
  have all : (Bits.digits word).dropWhile Text.isBinaryDigit = [] :=
    List.dropWhile_eq_nil_iff.mpr fun _ => Bits.isBinaryDigit_of_mem_digits
  rw [ofDigits, Bits.text, String.toList_ofList]
  simp only [byteLength_digits, all, Bits.numeralValue_digits, BitVec.ofNat_toNat,
    BitVec.setWidth_eq, ne_eq, not_true_eq_false, if_false]

/-- A word is read from no text but its own digits. -/
theorem eq_text_of_ofDigits {text : String} {word : Word} (success : ofDigits text = .ok word) :
    text = Bits.text word := by
  simp only [ofDigits] at success
  split_ifs at success with length
  cases tail : text.toList.dropWhile Text.isBinaryDigit with
  | cons found rest => simp [tail] at success
  | nil =>
      simp only [tail, Except.ok.injEq] at success
      have binary := List.dropWhile_eq_nil_iff.mp tail
      rw [byteLength_of_isBinaryDigit binary, ne_eq, not_not] at length
      rw [← success]
      exact Bits.Spells.eq_text ⟨length, binary, rfl⟩

/-! The digits of the slices. -/

@[simp] theorem digits_opcode (word : Word) :
    Bits.digits word.opcode = (Bits.digits word).take 6 :=
  Bits.digits_extractLsb' word (by decide)

@[simp] theorem digits_rs (word : Word) :
    Bits.digits word.rs = ((Bits.digits word).drop 6).take 5 :=
  Bits.digits_extractLsb' word (by decide)

@[simp] theorem digits_rt (word : Word) :
    Bits.digits word.rt = ((Bits.digits word).drop 11).take 5 :=
  Bits.digits_extractLsb' word (by decide)

@[simp] theorem digits_rd (word : Word) :
    Bits.digits word.rd = ((Bits.digits word).drop 16).take 5 :=
  Bits.digits_extractLsb' word (by decide)

@[simp] theorem digits_shamt (word : Word) :
    Bits.digits word.shamt = ((Bits.digits word).drop 21).take 5 :=
  Bits.digits_extractLsb' word (by decide)

@[simp] theorem digits_funct (word : Word) :
    Bits.digits word.funct = ((Bits.digits word).drop 26).take 6 :=
  Bits.digits_extractLsb' word (by decide)

@[simp] theorem digits_code (word : Word) :
    Bits.digits word.code = ((Bits.digits word).drop 16).take 10 :=
  Bits.digits_extractLsb' word (by decide)

@[simp] theorem digits_immediate (word : Word) :
    Bits.digits word.immediate = ((Bits.digits word).drop 16).take 16 :=
  Bits.digits_extractLsb' word (by decide)

@[simp] theorem digits_address (word : Word) :
    Bits.digits word.address = ((Bits.digits word).drop 6).take 26 :=
  Bits.digits_extractLsb' word (by decide)

end Word

end MipsGloss
