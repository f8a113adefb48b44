import Mathlib.Algebra.Group.Nat.Defs
import Mathlib.Data.List.TakeWhile
import MipsGloss.Text.Blank
import MipsGloss.Text.Casing
import MipsGloss.Text.Numeral

namespace MipsGloss.Text

/-! What trimming leaves and what it leaves alone. Ink is everything that is no
blank; a text without characters starts and ends with ink. -/

def StartsInk (characters : List Char) : Prop :=
  ∀ character, characters.head? = some character → isBlank character = false

def EndsInk (characters : List Char) : Prop :=
  ∀ character, characters.getLast? = some character → isBlank character = false

theorem trimStart_eq_self {characters : List Char} (starts : StartsInk characters) :
    trimStart characters = characters := by
  cases characters with
  | nil => rfl
  | cons head tail =>
      have ink := starts head rfl
      exact List.dropWhile_cons_of_neg (by simp [ink])

theorem trimEnd_eq_self {characters : List Char} (ends : EndsInk characters) :
    trimEnd characters = characters := by
  have startsReverse : StartsInk characters.reverse := by
    intro character last
    rw [List.head?_reverse] at last
    exact ends character last
  have unchanged := trimStart_eq_self startsReverse
  rw [trimStart] at unchanged
  rw [trimEnd, unchanged, List.reverse_reverse]

theorem trimCharacters_eq_self {characters : List Char}
    (starts : StartsInk characters) (ends : EndsInk characters) :
    trimCharacters characters = characters := by
  rw [trimCharacters, trimStart_eq_self starts, trimEnd_eq_self ends]

/-- Blanks around a text are trimmed away, and nothing else is. -/
theorem trimCharacters_between {before middle after : List Char}
    (blankBefore : ∀ character ∈ before, isBlank character = true)
    (blankAfter : ∀ character ∈ after, isBlank character = true)
    (starts : StartsInk middle) (ends : EndsInk middle) :
    trimCharacters (before ++ middle ++ after) = middle := by
  have atEnd : trimEnd (middle ++ after) = middle := by
    have back : ∀ character ∈ after.reverse, isBlank character = true :=
      fun character member => blankAfter character (List.mem_reverse.mp member)
    rw [trimEnd, List.reverse_append, List.dropWhile_append_of_pos back]
    exact trimEnd_eq_self ends
  rw [trimCharacters, trimStart, List.append_assoc, List.dropWhile_append_of_pos blankBefore]
  cases middle with
  | nil =>
      rw [List.nil_append, List.dropWhile_eq_nil_iff.mpr blankAfter]
      rfl
  | cons head tail =>
      have startsAll : StartsInk (head :: tail ++ after) :=
        fun character first => starts character first
      have unchanged := trimStart_eq_self startsAll
      rw [trimStart] at unchanged
      rw [unchanged, atEnd]

theorem trimCharacters_around_ink {before ink after : List Char}
    (blankBefore : ∀ character ∈ before, isBlank character = true)
    (blankAfter : ∀ character ∈ after, isBlank character = true)
    (blankless : ∀ character ∈ ink, isBlank character = false) :
    trimCharacters (before ++ ink ++ after) = ink := by
  apply trimCharacters_between blankBefore blankAfter
  · exact fun character first => blankless character (List.mem_of_head? first)
  · exact fun character last => blankless character (List.mem_of_getLast? last)

theorem endsInk_trimCharacters (characters : List Char) :
    EndsInk (trimCharacters characters) := by
  intro character last
  rw [trimCharacters, trimEnd, List.getLast?_reverse] at last
  have stopped := List.head?_dropWhile_not isBlank (trimStart characters).reverse
  rw [last] at stopped
  simpa using stopped

theorem startsInk_trimCharacters (characters : List Char) :
    StartsInk (trimCharacters characters) := by
  intro character first
  have kept : trimCharacters characters <+: trimStart characters := by
    rw [trimCharacters, trimEnd, ← List.reverse_suffix, List.reverse_reverse]
    exact List.dropWhile_suffix isBlank
  rcases kept with ⟨dropped, joined⟩
  have stopped := List.head?_dropWhile_not isBlank characters
  rw [← trimStart, ← joined, List.head?_append, first] at stopped
  exact stopped

theorem exists_blanks_around (characters : List Char) :
    ∃ before after, (∀ character ∈ before, isBlank character = true) ∧
      (∀ character ∈ after, isBlank character = true) ∧
      characters = before ++ trimCharacters characters ++ after := by
  refine ⟨characters.takeWhile isBlank, ((trimStart characters).reverse.takeWhile isBlank).reverse,
    fun _ member => List.mem_takeWhile_imp member,
    fun _ member => List.mem_takeWhile_imp (List.mem_reverse.mp member), ?_⟩
  have atEnd : trimEnd (trimStart characters) ++
      ((trimStart characters).reverse.takeWhile isBlank).reverse = trimStart characters := by
    rw [trimEnd, ← List.reverse_append, List.takeWhile_append_dropWhile, List.reverse_reverse]
  rw [List.append_assoc, trimCharacters, atEnd, trimStart, List.takeWhile_append_dropWhile]

/-- Blanks that are put around characters are trimmed away with theirs. -/
theorem trimCharacters_blanks {before after : List Char}
    (blankBefore : ∀ character ∈ before, isBlank character = true)
    (blankAfter : ∀ character ∈ after, isBlank character = true) (characters : List Char) :
    trimCharacters (before ++ characters ++ after) = trimCharacters characters := by
  rcases exists_blanks_around characters with ⟨inner, outer, blankInner, blankOuter, whole⟩
  have regrouped : before ++ characters ++ after =
      (before ++ inner) ++ trimCharacters characters ++ (outer ++ after) := by
    conv => lhs; rw [whole]
    simp only [List.append_assoc]
  rw [regrouped]
  apply trimCharacters_between
  · exact fun character member =>
      (List.mem_append.mp member).elim (blankBefore character) (blankInner character)
  · exact fun character member =>
      (List.mem_append.mp member).elim (blankOuter character) (blankAfter character)
  · exact startsInk_trimCharacters characters
  · exact endsInk_trimCharacters characters

theorem trimCharacters_append {after : List Char}
    (blankAfter : ∀ character ∈ after, isBlank character = true) (characters : List Char) :
    trimCharacters (characters ++ after) = trimCharacters characters := by
  have blankBefore : ∀ character ∈ ([] : List Char), isBlank character = true := by simp
  exact trimCharacters_blanks blankBefore blankAfter characters

/-- Gaps in front are blanks, which trimming drops in any case. -/
theorem trimCharacters_dropWhile_isGap (characters : List Char) :
    trimCharacters (characters.dropWhile isGap) = trimCharacters characters := by
  have blankBefore : ∀ character ∈ characters.takeWhile isGap, isBlank character = true :=
    fun _ member => isBlank_of_isGap (List.mem_takeWhile_imp member)
  have blankAfter : ∀ character ∈ ([] : List Char), isBlank character = true := by simp
  have trimmed := trimCharacters_blanks blankBefore blankAfter (characters.dropWhile isGap)
  rw [List.append_nil, List.takeWhile_append_dropWhile] at trimmed
  exact trimmed.symm

theorem mem_trimCharacters_iff {character : Char} (ink : isBlank character = false)
    (characters : List Char) :
    character ∈ trimCharacters characters ↔ character ∈ characters := by
  rcases exists_blanks_around characters with ⟨before, after, blankBefore, blankAfter, whole⟩
  have notBlank : ∀ blanks : List Char, (∀ other ∈ blanks, isBlank other = true) →
      character ∉ blanks := by
    intro blanks blank member
    rw [blank character member] at ink
    cases ink
  conv => rhs; rw [whole]
  simp [notBlank before blankBefore, notBlank after blankAfter]

/-- Nothing is left by trimming exactly where there are only blanks. -/
theorem trim_eq_empty_iff {text : String} :
    trim text = "" ↔ ∀ character ∈ text.toList, isBlank character = true := by
  have starts : ∀ character, (trimStart text.toList).head? = some character →
      isBlank character = false := by
    intro character first
    have stopped := List.head?_dropWhile_not isBlank text.toList
    rw [← trimStart, first] at stopped
    exact stopped
  rw [trim, String.ofList_eq_empty_iff, trimCharacters, trimEnd, List.reverse_eq_nil_iff,
    List.dropWhile_eq_nil_iff]
  constructor
  · intro blank
    apply List.dropWhile_eq_nil_iff.mp
    cases left : trimStart text.toList with
    | nil => exact left
    | cons first rest =>
        have ink := starts first (by rw [left]; rfl)
        rw [blank first (by simp [left])] at ink
        cases ink
  · intro blank
    rw [trimStart, List.dropWhile_eq_nil_iff.mpr blank]
    exact nofun

theorem endsInk_append {front back : List Char} (filled : back ≠ [])
    (ends : EndsInk back) : EndsInk (front ++ back) := by
  intro character last
  rw [List.getLast?_append, List.getLast?_eq_some_getLast filled, Option.some_or] at last
  exact ends character ((List.getLast?_eq_some_getLast filled).trans last)

/-! ## Runs

A run of characters of one kind stops where a character of another kind follows, and
there is only one place where it can. -/

/-- The characters do not begin with one of the kind. -/
def Stops (kind : Char → Bool) (characters : List Char) : Prop :=
  ∀ character, characters.head? = some character → kind character = false

theorem stops_dropWhile (kind : Char → Bool) (characters : List Char) :
    Stops kind (characters.dropWhile kind) := by
  intro character first
  have stopped := List.head?_dropWhile_not kind characters
  rw [first] at stopped
  exact stopped

theorem stops_cons {kind : Char → Bool} {character : Char} (other : kind character = false)
    (rest : List Char) : Stops kind (character :: rest) := by
  intro first found
  cases found
  exact other

/-- A character that is absent is another one than each that is there. -/
theorem bne_of_not_mem {absent : Char} {characters : List Char} (notMember : absent ∉ characters) :
    ∀ character ∈ characters, (character != absent) = true := by
  intro character member
  rw [bne_iff_ne]
  intro equal
  exact notMember (equal ▸ member)

section

variable {kind : Char → Bool} {run rest : List Char}

theorem takeWhile_append_of_stops (ofKind : ∀ character ∈ run, kind character = true)
    (stops : Stops kind rest) : (run ++ rest).takeWhile kind = run := by
  rw [List.takeWhile_append_of_pos ofKind]
  cases rest with
  | nil => simp
  | cons head tail =>
      have other := stops head rfl
      rw [List.takeWhile_cons_of_neg (by simp [other]), List.append_nil]

theorem dropWhile_append_eq_append (stops : Stops kind rest) (front : List Char) :
    (front ++ rest).dropWhile kind = front.dropWhile kind ++ rest := by
  have unchanged : rest.dropWhile kind = rest := by
    cases rest with
    | nil => rfl
    | cons head tail =>
        have other := stops head rfl
        exact List.dropWhile_cons_of_neg (by simp [other])
  rw [List.dropWhile_append]
  split
  · next empty => rw [unchanged, List.isEmpty_iff.mp empty, List.nil_append]
  · rfl

theorem dropWhile_append_of_stops (ofKind : ∀ character ∈ run, kind character = true)
    (stops : Stops kind rest) : (run ++ rest).dropWhile kind = rest := by
  rw [dropWhile_append_eq_append stops, List.dropWhile_eq_nil_iff.mpr ofKind, List.nil_append]

theorem run_unique {otherRun otherRest : List Char}
    (ofKind : ∀ character ∈ run, kind character = true) (stops : Stops kind rest)
    (otherOfKind : ∀ character ∈ otherRun, kind character = true)
    (otherStops : Stops kind otherRest) (same : run ++ rest = otherRun ++ otherRest) :
    run = otherRun ∧ rest = otherRest := by
  have runs := congrArg (List.takeWhile kind) same
  have rests := congrArg (List.dropWhile kind) same
  rw [takeWhile_append_of_stops ofKind stops,
    takeWhile_append_of_stops otherOfKind otherStops] at runs
  rw [dropWhile_append_of_stops ofKind stops,
    dropWhile_append_of_stops otherOfKind otherStops] at rests
  exact ⟨runs, rests⟩

end

/-! ## Characters of one byte

Codes between those of the blank and of the last control character are ink, and
only the capitals among them have another small form. -/

theorem le_iff_toNat_le {left right : Char} :
    left ≤ right ↔ left.toNat ≤ right.toNat := UInt32.le_iff_toNat_le

theorem isBlank_eq_false {character : Char} (lower : 0x20 < character.toNat)
    (upper : character.toNat < 0x80) : isBlank character = false := by
  have outside :
      blanks.all (fun blank => blank.toNat ≤ 0x20 || 0x80 ≤ blank.toNat) = true := by
    decide
  apply Bool.eq_false_iff.mpr
  intro blank
  have member : character ∈ blanks := List.contains_iff_mem.mp blank
  have bounds := List.all_eq_true.mp outside character member
  rw [Bool.or_eq_true, decide_eq_true_eq, decide_eq_true_eq] at bounds
  omega

theorem lowerCharacter_eq_self {character : Char} (ascii : character.toNat < 0x80)
    (small : ¬ (0x41 ≤ character.toNat ∧ character.toNat ≤ 0x5a)) :
    lowerCharacter character = character := by
  have outside : ∀ run ∈ caseRuns,
      (run.first = 0x41 ∧ run.last = 0x5a) ∨ 0x80 ≤ run.first := by
    decide +kernel
  have uncovered : caseRuns.find? (·.covers character.toNat) = none := by
    rw [List.find?_eq_none]
    intro run member covered
    simp only [CaseRun.covers, Bool.and_eq_true, decide_eq_true_eq] at covered
    have bounds := outside run member
    omega
  rw [lowerCharacter, uncovered]

theorem lower_ofList_eq_self {characters : List Char}
    (small : ∀ character ∈ characters, lowerCharacter character = character) :
    lower (String.ofList characters) = String.ofList characters := by
  rw [lower, String.toList_ofList, List.map_congr_left small, List.map_id']

/-! ## Texts of one-byte characters

The characters of such a text can be read off its bytes, which is the quicker way to
look through a fixed text. -/

/-- The bytes of a text as characters, one for each of them. -/
def byteCharacters (text : String) : List Char :=
  text.toByteArray.data.toList.map fun byte => Char.ofNat byte.toNat

theorem toList_toByteArray (text : String) :
    text.toByteArray.data.toList = text.toList.flatMap String.utf8EncodeChar := by
  have written : text.toByteArray = text.toList.utf8Encode := by
    rw [← String.toByteArray_ofList, String.ofList_toList]
  rw [written, List.utf8Encode, List.data_toByteArray]

theorem utf8EncodeChar_of_lt {character : Char}
    (small : ∀ byte ∈ String.utf8EncodeChar character, byte.toNat < 0x80) :
    (String.utf8EncodeChar character).map (fun byte => Char.ofNat byte.toNat) =
      [character] := by
  by_cases single : character.toNat ≤ 0x7f
  · have encoded : String.utf8EncodeChar character = [UInt8.ofNat character.toNat] :=
      if_pos single
    rw [encoded, List.map_singleton, UInt8.toNat_ofNat_of_lt' (by simp only [UInt8.size]; omega),
      Char.ofNat_toNat]
  · -- The first of several bytes is never a small one.
    exfalso
    rw [String.utf8EncodeChar] at small
    simp only [show ¬ character.val.toNat ≤ 127 from single, if_false] at small
    split at small
    · have lead := small _ List.mem_cons_self
      rw [UInt8.toNat_ofNat'] at lead
      omega
    · split at small
      · have lead := small _ List.mem_cons_self
        rw [UInt8.toNat_ofNat'] at lead
        omega
      · have lead := small _ List.mem_cons_self
        rw [UInt8.toNat_ofNat'] at lead
        omega

theorem toList_eq_byteCharacters {text : String}
    (small : ∀ byte ∈ text.toByteArray.data.toList, byte.toNat < 0x80) :
    text.toList = byteCharacters text := by
  rw [byteCharacters, toList_toByteArray]
  rw [toList_toByteArray] at small
  generalize text.toList = characters at small ⊢
  induction characters with
  | nil => rfl
  | cons character rest induction =>
      rw [List.flatMap_cons] at small ⊢
      rw [List.map_append,
        utf8EncodeChar_of_lt fun byte member => small byte (List.mem_append_left _ member),
        ← induction fun byte member => small byte (List.mem_append_right _ member)]
      rfl

/-! ## Hexadecimal digits -/

/-- A digit as it is written: no capital stands for a value. -/
def isSmallHexDigit (character : Char) : Bool :=
  isDecimalDigit character || ('a' ≤ character && character ≤ 'f')

theorem isHexDigit_iff {character : Char} :
    isHexDigit character = true ↔
      (0x30 ≤ character.toNat ∧ character.toNat ≤ 0x39) ∨
      (0x61 ≤ character.toNat ∧ character.toNat ≤ 0x66) ∨
      (0x41 ≤ character.toNat ∧ character.toNat ≤ 0x46) := by
  simp only [isHexDigit, digitValue?, le_iff_toNat_le]
  grind

theorem isSmallHexDigit_iff {character : Char} :
    isSmallHexDigit character = true ↔
      (0x30 ≤ character.toNat ∧ character.toNat ≤ 0x39) ∨
      (0x61 ≤ character.toNat ∧ character.toNat ≤ 0x66) := by
  simp only [isSmallHexDigit, isDecimalDigit, le_iff_toNat_le]
  grind

theorem isHexDigit_of_isSmallHexDigit {character : Char}
    (small : isSmallHexDigit character = true) : isHexDigit character = true := by
  rw [isSmallHexDigit_iff] at small
  rw [isHexDigit_iff]
  omega

theorem isBlank_of_isHexDigit {character : Char}
    (digit : isHexDigit character = true) : isBlank character = false := by
  rw [isHexDigit_iff] at digit
  exact isBlank_eq_false (by omega) (by omega)

theorem isSmallHexDigit_lowerCharacter {character : Char}
    (digit : isHexDigit character = true) :
    isSmallHexDigit (lowerCharacter character) = true := by
  have table : ∀ code < 0x67, isHexDigit (Char.ofNat code) = true →
      isSmallHexDigit (lowerCharacter (Char.ofNat code)) = true := by
    decide +kernel
  have bound : character.toNat < 0x67 := by
    rw [isHexDigit_iff] at digit
    omega
  have entry := table character.toNat bound
  rw [Char.ofNat_toNat] at entry
  exact entry digit

/-! ## Numerals

Each digit in front counts as often as the digits behind it have values. -/

theorem digitValue?_lt {character : Char} {value : Nat}
    (found : digitValue? character = some value) : value < 16 := by
  simp only [digitValue?, le_iff_toNat_le] at found
  grind

theorem digitValue?_getD_lt (character : Char) :
    (digitValue? character).getD 0 < 16 := by
  cases found : digitValue? character with
  | none => simp
  | some value => exact digitValue?_lt found

private theorem foldl_numeral (base total : Nat) (digits : List Char) :
    digits.foldl (fun total digit => total * base + (digitValue? digit).getD 0) total =
      total * base ^ digits.length + numeralValue base digits := by
  induction digits generalizing total with
  | nil => simp [numeralValue]
  | cons digit rest induction =>
      rw [numeralValue, List.foldl_cons, List.foldl_cons, induction, induction,
        List.length_cons, Nat.pow_succ']
      grind

theorem numeralValue_cons (base : Nat) (digit : Char) (rest : List Char) :
    numeralValue base (digit :: rest) =
      (digitValue? digit).getD 0 * base ^ rest.length + numeralValue base rest := by
  rw [numeralValue, List.foldl_cons, foldl_numeral, Nat.zero_mul, Nat.zero_add]

theorem numeralValue_append_singleton (base : Nat) (front : List Char) (digit : Char) :
    numeralValue base (front ++ [digit]) =
      numeralValue base front * base + (digitValue? digit).getD 0 := by
  rw [numeralValue, List.foldl_append]
  rfl

theorem numeralValue_lt_pow {base : Nat} {digits : List Char}
    (bounded : ∀ digit ∈ digits, (digitValue? digit).getD 0 < base) :
    numeralValue base digits < base ^ digits.length := by
  induction digits with
  | nil => simp [numeralValue]
  | cons digit rest induction =>
      have head : (digitValue? digit).getD 0 + 1 ≤ base := bounded digit List.mem_cons_self
      have tail := induction fun other member => bounded other (List.mem_cons_of_mem _ member)
      have product := Nat.mul_le_mul_right (base ^ rest.length) head
      rw [numeralValue_cons, List.length_cons, Nat.pow_succ']
      rw [Nat.add_mul] at product
      omega

theorem numeralValue_lt (digits : List Char) :
    numeralValue 16 digits < 16 ^ digits.length :=
  numeralValue_lt_pow fun digit _ => digitValue?_getD_lt digit

theorem numeralValue_replicate_zero_append (base count : Nat) (digits : List Char) :
    numeralValue base (List.replicate count '0' ++ digits) =
      numeralValue base digits := by
  induction count with
  | zero => rfl
  | succ count induction =>
      have zero : (digitValue? '0').getD 0 = 0 := by decide
      rw [List.replicate_succ, List.cons_append, numeralValue_cons, zero, induction,
        Nat.zero_mul, Nat.zero_add]

/-! ## Binary digits -/

theorem isBinaryDigit_iff {character : Char} :
    isBinaryDigit character = true ↔ character = '0' ∨ character = '1' := by
  rw [isBinaryDigit, Bool.or_eq_true, beq_iff_eq, beq_iff_eq]

theorem digitValue?_of_isBinaryDigit {character : Char}
    (binary : isBinaryDigit character = true) :
    (digitValue? character).getD 0 = if character = '1' then 1 else 0 := by
  rcases isBinaryDigit_iff.mp binary with rfl | rfl <;> decide

theorem numeralValue_lt_two_pow {digits : List Char}
    (binary : ∀ digit ∈ digits, isBinaryDigit digit = true) :
    numeralValue 2 digits < 2 ^ digits.length := by
  apply numeralValue_lt_pow
  intro digit member
  rw [digitValue?_of_isBinaryDigit (binary digit member)]
  split <;> decide

/-- Binary digits are known from their number and their value. -/
theorem eq_of_numeralValue_eq {left right : List Char}
    (leftBinary : ∀ digit ∈ left, isBinaryDigit digit = true)
    (rightBinary : ∀ digit ∈ right, isBinaryDigit digit = true)
    (length : left.length = right.length)
    (value : numeralValue 2 left = numeralValue 2 right) : left = right := by
  induction left generalizing right with
  | nil => exact (List.length_eq_zero_iff.mp length.symm).symm
  | cons head tail induction =>
      cases right with
      | nil => cases length
      | cons other others =>
          have sameLength : tail.length = others.length := Nat.succ.inj length
          have tailBinary := fun digit member =>
            leftBinary digit (List.mem_cons_of_mem head member)
          have othersBinary := fun digit member =>
            rightBinary digit (List.mem_cons_of_mem other member)
          have headBinary := leftBinary head List.mem_cons_self
          have otherBinary := rightBinary other List.mem_cons_self
          have tailBound := numeralValue_lt_two_pow tailBinary
          have othersBound := numeralValue_lt_two_pow othersBinary
          rw [sameLength] at tailBound
          rw [numeralValue_cons, numeralValue_cons, sameLength,
            digitValue?_of_isBinaryDigit headBinary,
            digitValue?_of_isBinaryDigit otherBinary] at value
          -- A first digit weighs more than all the digits behind it together.
          have sameHead : head = other := by
            rcases isBinaryDigit_iff.mp headBinary with rfl | rfl <;>
              rcases isBinaryDigit_iff.mp otherBinary with rfl | rfl <;>
              simp at value ⊢ <;> omega
          rw [sameHead] at value ⊢
          rw [induction tailBinary othersBinary sameLength (Nat.add_left_cancel value)]

end MipsGloss.Text
