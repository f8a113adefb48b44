import MipsGloss.Proofs.Word
import MipsGloss.Word.Hexadecimal

namespace MipsGloss.Word

/-! Words in hexadecimal. All spellings of one value are read as the same word,
whatever their blanks, their mark, their leading zeros and their letter case. Apart
from spellings, only texts with both marks are read. -/

/-- What may stand in front of the digits. -/
def marks : List (List Char) := [[], ['0', 'x'], ['0', 'X']]

/-- A spelling: one to eight digits behind a mark, between blanks. -/
structure Spelling where
  before : List Char
  mark : List Char
  digits : List Char
  after : List Char
  blankBefore : ∀ character ∈ before, Text.isBlank character = true
  marked : mark ∈ marks
  filled : digits ≠ []
  short : digits.length ≤ 8
  hexadecimal : ∀ digit ∈ digits, Text.isHexDigit digit = true
  blankAfter : ∀ character ∈ after, Text.isBlank character = true

theorem dropMark_append (mark characters : List Char) :
    dropMark mark (mark ++ characters) = characters := by
  rw [dropMark, if_pos (List.isPrefixOf_iff_prefix.mpr (List.prefix_append mark characters)),
    List.drop_left]

/-- A mark holds a letter that is no digit, so that no digits begin with it. -/
theorem dropMark_of_digits {digits : List Char} {letter : Char}
    (hexadecimal : ∀ digit ∈ digits, Text.isHexDigit digit = true)
    (noDigit : Text.isHexDigit letter = false) : dropMark ['0', letter] digits = digits := by
  apply if_neg
  intro marked
  have member : letter ∈ digits := (List.isPrefixOf_iff_prefix.mp marked).mem (by simp)
  rw [hexadecimal letter member] at noDigit
  cases noDigit

/-- The two marks behind one another. Both are taken away in this order. -/
def doubleMark : List Char := ['0', 'x', '0', 'X']

theorem hexadecimalDigits_of_trimmed {text : String} {mark digits : List Char}
    (trimmed : Text.trimCharacters text.toList = mark ++ digits)
    (marked : mark ∈ doubleMark :: marks)
    (hexadecimal : ∀ digit ∈ digits, Text.isHexDigit digit = true) :
    hexadecimalDigits text = digits := by
  have small : dropMark ['0', 'x'] digits = digits := dropMark_of_digits hexadecimal (by decide)
  have capital : dropMark ['0', 'X'] digits = digits :=
    dropMark_of_digits hexadecimal (by decide)
  rw [hexadecimalDigits, trimmed]
  have cases : mark = ['0', 'x'] ++ ['0', 'X'] ∨ mark = [] ∨ mark = ['0', 'x'] ∨
      mark = ['0', 'X'] := by
    simpa [doubleMark, marks] using marked
  rcases cases with mark | mark | mark | mark
  · rw [mark, List.append_assoc, dropMark_append, dropMark_append]
  · rw [mark, List.nil_append, small, capital]
  · rw [mark, dropMark_append, capital]
  · have other : dropMark ['0', 'x'] (['0', 'X'] ++ digits) = ['0', 'X'] ++ digits :=
      if_neg (by simp)
    rw [mark, other, dropMark_append]

namespace Spelling

def value (spelling : Spelling) : Nat := Text.numeralValue 16 spelling.digits

/-- What is left between the blanks. -/
def ink (spelling : Spelling) : List Char := spelling.mark ++ spelling.digits

def text (spelling : Spelling) : String :=
  String.ofList (spelling.before ++ spelling.ink ++ spelling.after)

theorem value_lt (spelling : Spelling) : spelling.value < 2 ^ 32 := by
  calc
    spelling.value < 16 ^ spelling.digits.length := Text.numeralValue_lt spelling.digits
    _ ≤ 16 ^ 8 := Nat.pow_le_pow_right (by decide) spelling.short
    _ = 2 ^ 32 := by decide

theorem length_ink_le (spelling : Spelling) : spelling.ink.length ≤ 10 := by
  have table : ∀ mark ∈ marks, mark.length ≤ 2 := by decide
  rw [ink, List.length_append]
  exact Nat.add_le_add (table spelling.mark spelling.marked) spelling.short

theorem isBlank_of_mem_ink (spelling : Spelling) :
    ∀ character ∈ spelling.ink, Text.isBlank character = false := by
  intro character member
  rcases List.mem_append.mp member with inMark | inDigits
  · have table : ∀ mark ∈ marks, mark.all (!Text.isBlank ·) = true := by decide
    have clear := List.all_eq_true.mp (table spelling.mark spelling.marked) character inMark
    rwa [Bool.not_eq_true'] at clear
  · exact Text.isBlank_of_isHexDigit (spelling.hexadecimal character inDigits)

theorem trimCharacters_text (spelling : Spelling) :
    Text.trimCharacters spelling.text.toList = spelling.ink := by
  rw [text, String.toList_ofList]
  exact Text.trimCharacters_around_ink spelling.blankBefore spelling.blankAfter
    spelling.isBlank_of_mem_ink

theorem hexadecimalDigits_text (spelling : Spelling) :
    hexadecimalDigits spelling.text = spelling.digits :=
  hexadecimalDigits_of_trimmed spelling.trimCharacters_text
    (List.mem_cons_of_mem doubleMark spelling.marked) spelling.hexadecimal

theorem ofHexadecimal_text (spelling : Spelling) :
    ofHexadecimal spelling.text = .ok (BitVec.ofNat 32 spelling.value) := by
  rw [ofHexadecimal, spelling.hexadecimalDigits_text]
  exact if_pos ⟨spelling.filled, spelling.short, List.all_eq_true.mpr spelling.hexadecimal⟩

/-- The same spelling without its blanks. -/
def trimmed (spelling : Spelling) : Spelling :=
  { spelling with
    before := []
    after := []
    blankBefore := fun _ member => (nomatch member)
    blankAfter := fun _ member => (nomatch member) }

theorem value_trimmed (spelling : Spelling) : spelling.trimmed.value = spelling.value := rfl

theorem trim_text (spelling : Spelling) :
    Text.trim spelling.text = spelling.trimmed.text := by
  rw [Text.trim, spelling.trimCharacters_text]
  simp [text, trimmed, ink]

/-- A text of nothing but eight digits is a spelling. -/
def ofEightDigits (text : String) (length : text.toList.length = 8)
    (hexadecimal : ∀ digit ∈ text.toList, Text.isHexDigit digit = true) : Spelling where
  before := []
  mark := []
  digits := text.toList
  after := []
  blankBefore _ member := (nomatch member)
  marked := List.mem_cons_self
  filled := by
    intro empty
    rw [empty] at length
    cases length
  short := Nat.le_of_eq length
  hexadecimal := hexadecimal
  blankAfter _ member := (nomatch member)

end Spelling

/-- Eight digits spell a word of their full value. -/
theorem exists_of_eight_digits {text : String} (length : text.toList.length = 8)
    (digits : ∀ digit ∈ text.toList, Text.isHexDigit digit = true) :
    ∃ word : Word, word.toNat = Text.numeralValue 16 text.toList ∧
      ofHexadecimal text = .ok word := by
  let spelling := Spelling.ofEightDigits text length digits
  have same : spelling.text = text := by
    simp [spelling, Spelling.ofEightDigits, Spelling.text, Spelling.ink]
  refine ⟨_, ?_, same ▸ spelling.ofHexadecimal_text⟩
  rw [BitVec.toNat_ofNat, Nat.mod_eq_of_lt spelling.value_lt]
  rfl

/-! ## What is read

A text is read when only digits are left of it. The marks are looked for one after
the other, so that this happens behind both of them as well. -/

/-- Digits that fit into a word. -/
def FitDigits (digits : List Char) : Prop :=
  digits ≠ [] ∧ digits.length ≤ 8 ∧ ∀ digit ∈ digits, Text.isHexDigit digit = true

/-- A text that is, but for the blanks around it, one of the given marks with digits
behind it and nothing else. -/
def Marked (allowed : List (List Char)) (text : String) : Prop :=
  ∃ mark ∈ allowed, ∃ digits, FitDigits digits ∧
    Text.trimCharacters text.toList = mark ++ digits

theorem marked_cons_iff {mark : List Char} {allowed : List (List Char)} {text : String} :
    Marked (mark :: allowed) text ↔ Marked [mark] text ∨ Marked allowed text := by
  simp [Marked, or_and_right, exists_or]

theorem ofHexadecimal_of_fitDigits {text : String}
    (fit : FitDigits (hexadecimalDigits text)) :
    ofHexadecimal text =
      .ok (BitVec.ofNat 32 (Text.numeralValue 16 (hexadecimalDigits text))) :=
  if_pos ⟨fit.1, fit.2.1, List.all_eq_true.mpr fit.2.2⟩

theorem ofHexadecimal_of_not_fitDigits {text : String}
    (unfit : ¬ FitDigits (hexadecimalDigits text)) :
    ofHexadecimal text = .error ⟨String.ofList (hexadecimalDigits text)⟩ := by
  apply if_neg
  rintro ⟨filled, short, hexadecimal⟩
  exact unfit ⟨filled, short, List.all_eq_true.mp hexadecimal⟩

/-- A mark that is taken away stood in front of what is left. -/
theorem dropMark_cases (mark characters : List Char) :
    characters = dropMark mark characters ∨
      characters = mark ++ dropMark mark characters := by
  rw [dropMark]
  split
  · next marked =>
      right
      rcases List.isPrefixOf_iff_prefix.mp marked with ⟨rest, rfl⟩
      rw [List.drop_left]
  · exact .inl rfl

theorem fitDigits_hexadecimalDigits_iff {text : String} :
    FitDigits (hexadecimalDigits text) ↔ Marked (doubleMark :: marks) text := by
  constructor
  · intro fit
    rw [hexadecimalDigits] at fit
    generalize trimmed : Text.trimCharacters text.toList = ink at fit
    rcases dropMark_cases ['0', 'x'] ink with small | small <;>
      rcases dropMark_cases ['0', 'X'] (dropMark ['0', 'x'] ink) with capital | capital
    · exact ⟨[], by decide, _, fit, by rw [trimmed, List.nil_append, ← capital, ← small]⟩
    · exact ⟨['0', 'X'], by decide, _, fit, by rw [trimmed, ← capital, ← small]⟩
    · exact ⟨['0', 'x'], by decide, _, fit, by rw [trimmed, ← capital, ← small]⟩
    · refine ⟨['0', 'x'] ++ ['0', 'X'], by decide, _, fit, ?_⟩
      rw [trimmed, List.append_assoc, ← capital, ← small]
  · rintro ⟨mark, marked, digits, fit, trimmed⟩
    rwa [hexadecimalDigits_of_trimmed trimmed marked fit.2.2]

/-- Behind the double mark stands no spelling: one mark leaves the other, whose letter is
no digit. -/
theorem not_marked_of_doubleMark {text : String} (double : Marked [doubleMark] text) :
    ¬ Marked marks text := by
  rcases double with ⟨mark, marked, digits, _, trimmed⟩
  rintro ⟨other, otherMarked, others, fit, otherTrimmed⟩
  have same : doubleMark ++ digits = other ++ others := by
    rw [← List.mem_singleton.mp marked, ← trimmed, otherTrimmed]
  have letter : Text.isHexDigit 'x' = false ∧ Text.isHexDigit 'X' = false := by decide
  have cases : other = [] ∨ other = ['0', 'x'] ∨ other = ['0', 'X'] := by
    simpa [marks] using otherMarked
  rcases cases with rfl | rfl | rfl
  · have member : 'x' ∈ others := by
      rw [List.nil_append] at same
      simp [← same, doubleMark]
    rw [fit.2.2 'x' member] at letter
    cases letter.1
  · have rest : '0' :: 'X' :: digits = others := by simpa [doubleMark] using same
    have member : 'X' ∈ others := by simp [← rest]
    rw [fit.2.2 'X' member] at letter
    cases letter.2
  · simp [doubleMark] at same

/-- Spellings are read, and apart from them the texts with the double mark, which are
none; every other text is refused for what is left of it. -/
theorem ofHexadecimal_marked (text : String) :
    ((∃ word, ofHexadecimal text = .ok word) ↔ Marked marks text ∨ Marked [doubleMark] text) ∧
    (Marked [doubleMark] text → ¬ Marked marks text) ∧
    (¬ Marked marks text → ¬ Marked [doubleMark] text →
      ofHexadecimal text = .error ⟨String.ofList (hexadecimalDigits text)⟩) := by
  have divided : Marked (doubleMark :: marks) text ↔
      Marked marks text ∨ Marked [doubleMark] text := marked_cons_iff.trans or_comm
  refine ⟨?_, not_marked_of_doubleMark, fun unmarked single => ?_⟩
  · rw [← divided, ← fitDigits_hexadecimalDigits_iff]
    constructor
    · rintro ⟨word, read⟩
      by_contra unfit
      rw [ofHexadecimal_of_not_fitDigits unfit] at read
      cases read
    · intro fit
      exact ⟨_, ofHexadecimal_of_fitDigits fit⟩
  · apply ofHexadecimal_of_not_fitDigits
    rw [fitDigits_hexadecimalDigits_iff, divided]
    exact fun marked => marked.elim unmarked single

/-- Both marks are taken for one. -/
theorem ofHexadecimal_doubleMark :
    ofHexadecimal "0x0X12" = .ok 0x12 ∧ ¬ Marked marks "0x0X12" := by
  refine ⟨by decide +kernel, not_marked_of_doubleMark ?_⟩
  exact ⟨doubleMark, by decide, ['1', '2'],
    ⟨by decide, by decide, List.all_eq_true.mp (by decide)⟩, by decide⟩

end MipsGloss.Word
