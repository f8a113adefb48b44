import MipsGloss.Json.Reader

namespace MipsGloss.Json

/-! The grammar of the format. It says which characters spell a value, and leaves open
how they are read. -/

/-! ## Space -/

def Space (characters : List Char) : Prop := ∀ character ∈ characters, isSpace character = true

theorem Space.nil : Space [] := List.forall_mem_nil _

/-! ## Numbers -/

def Digits (characters : List Char) : Prop :=
  characters ≠ [] ∧ ∀ character ∈ characters, Text.isDecimalDigit character = true

/-- The whole part of a number. Only zero begins with a zero. -/
inductive Whole : List Char → Prop
  | zero : Whole ['0']
  | digits {characters : List Char} (digits : Digits characters)
      (leading : characters.head? ≠ some '0') : Whole characters

inductive Fraction : List Char → Prop
  | absent : Fraction []
  | digits {characters : List Char} (digits : Digits characters) : Fraction ('.' :: characters)

inductive Exponent : List Char → Prop
  | absent : Exponent []
  | digits {mark : Char} {sign characters : List Char} (marked : mark = 'e' ∨ mark = 'E')
      (signed : sign ∈ [[], ['+'], ['-']]) (digits : Digits characters) :
      Exponent (mark :: (sign ++ characters))

inductive Numeral : List Char → Prop
  | parts {sign whole fraction exponent : List Char} (signed : sign ∈ [[], ['-']])
      (isWhole : Whole whole) (isFraction : Fraction fraction) (isExponent : Exponent exponent) :
      Numeral (sign ++ (whole ++ (fraction ++ exponent)))

/-! ## Strings

A character stands for itself, or it is escaped by a letter or by its code. A character
beyond the codes of four digits is escaped by a pair of surrogates. A surrogate without
its partner stands for no character and is replaced. -/

/-- Four digits of a code. -/
def CodeDigits (digits : List Char) : Prop :=
  digits.length = 4 ∧ digits.all Text.isHexDigit = true

def isSurrogate (code : Nat) : Bool := isHighSurrogate code || isLowSurrogate code

/-- The characters do not go on with the second half of a pair. -/
def LacksLow (characters : List Char) : Prop :=
  ∀ digits rest, CodeDigits digits → characters = '\\' :: 'u' :: (digits ++ rest) →
    isLowSurrogate (Text.numeralValue 16 digits) = false

inductive SpellsText : List Char → List Char → Prop
  | empty : SpellsText [] []
  | plain {character : Char} {text characters : List Char} (visible : 0x20 ≤ character.toNat)
      (isPlain : character ∉ ['\x22', '\\']) (others : SpellsText text characters) :
      SpellsText (character :: text) (character :: characters)
  | letter {letter character : Char} {text characters : List Char}
      (known : letterEscapes.lookup letter = some character)
      (others : SpellsText text characters) :
      SpellsText (character :: text) ('\\' :: letter :: characters)
  | code {digits text characters : List Char} (coded : CodeDigits digits)
      (whole : isSurrogate (Text.numeralValue 16 digits) = false)
      (others : SpellsText text characters) :
      SpellsText (Char.ofNat (Text.numeralValue 16 digits) :: text)
        ('\\' :: 'u' :: (digits ++ characters))
  | pair {high low text characters : List Char} (first : CodeDigits high)
      (second : CodeDigits low)
      (isHigh : isHighSurrogate (Text.numeralValue 16 high) = true)
      (isLow : isLowSurrogate (Text.numeralValue 16 low) = true)
      (others : SpellsText text characters) :
      SpellsText
        (Char.ofNat (0x10000 + (Text.numeralValue 16 high - 0xd800) * 0x400 +
          (Text.numeralValue 16 low - 0xdc00)) :: text)
        ('\\' :: 'u' :: (high ++ '\\' :: 'u' :: (low ++ characters)))
  | lone {digits text characters : List Char} (coded : CodeDigits digits)
      (half : isSurrogate (Text.numeralValue 16 digits) = true)
      (alone : isHighSurrogate (Text.numeralValue 16 digits) = true → LacksLow characters)
      (others : SpellsText text characters) :
      SpellsText (replacement :: text) ('\\' :: 'u' :: (digits ++ characters))

/-! ## Values -/

/-- Some things, at least one of them, with commas between them. -/
inductive Listed {α : Type} (spells : α → List Char → Prop) : List α → List Char → Prop
  | last {item : α} {characters : List Char} (spelled : spells item characters) :
      Listed spells [item] characters
  | more {item : α} {items : List α} {characters others : List Char}
      (spelled : spells item characters) (listed : Listed spells items others) :
      Listed spells (item :: items) (characters ++ ',' :: others)

mutual

inductive Spells : Value → List Char → Prop
  | null : Spells .null ['n', 'u', 'l', 'l']
  | truth : Spells (.boolean true) ['t', 'r', 'u', 'e']
  | falsehood : Spells (.boolean false) ['f', 'a', 'l', 's', 'e']
  | number {characters : List Char} (numeral : Numeral characters) :
      Spells (.number (String.ofList characters)) characters
  | string {text : String} {characters : List Char} (spelled : SpellsText text.toList characters) :
      Spells (.string text) ('\x22' :: (characters ++ ['\x22']))
  | emptyArray {space : List Char} (blank : Space space) :
      Spells (.array []) ('[' :: (space ++ [']']))
  | array {items : List Value} {characters : List Char}
      (listed : Listed SpellsSpaced items characters) :
      Spells (.array items) ('[' :: (characters ++ [']']))
  | emptyObject {space : List Char} (blank : Space space) :
      Spells (.object []) ('\x7b' :: (space ++ ['\x7d']))
  | object {members : List (String × Value)} {characters : List Char}
      (listed : Listed SpellsMember members characters) :
      Spells (.object members) ('\x7b' :: (characters ++ ['\x7d']))

/-- A value with space on both sides. -/
inductive SpellsSpaced : Value → List Char → Prop
  | spaced {value : Value} {before characters after : List Char} (ahead : Space before)
      (spelled : Spells value characters) (behind : Space after) :
      SpellsSpaced value (before ++ (characters ++ after))

inductive SpellsMember : String × Value → List Char → Prop
  | member {name : String} {value : Value} {before inner between characters : List Char}
      (ahead : Space before) (named : SpellsText name.toList inner) (behind : Space between)
      (spelled : SpellsSpaced value characters) :
      SpellsMember (name, value)
        (before ++ '\x22' :: (inner ++ '\x22' :: (between ++ ':' :: characters)))

end

/-! ## Written strings

What is written for a string is one of the ways to spell it. -/

/-- Letters that stand for a character when it is written do so when it is read. -/
theorem letterEscapes_of_shortEscapes {character letter : Char}
    (written : shortEscapes.lookup character = some letter) :
    letterEscapes.lookup letter = some character := by
  have pairs : ∀ pair ∈ shortEscapes, letterEscapes.lookup pair.2 = some pair.1 := by decide
  rcases List.lookup_eq_some_iff.mp written with ⟨front, back, split, _⟩
  exact pairs (character, letter) (by simp [split])

instance (digits : List Char) : Decidable (CodeDigits digits) :=
  inferInstanceAs (Decidable (_ ∧ _))

theorem codeDigits_of_needsCode {character : Char} (needed : needsCode character = true) :
    CodeDigits (Text.paddedHexDigits 4 character.toNat) ∧
      Text.numeralValue 16 (Text.paddedHexDigits 4 character.toNat) = character.toNat ∧
      isSurrogate character.toNat = false := by
  rw [needsCode, Bool.or_eq_true, decide_eq_true_eq, List.contains_iff_mem] at needed
  rcases needed with control | special
  · have codes : ∀ code < 0x20, CodeDigits (Text.paddedHexDigits 4 code) ∧
        Text.numeralValue 16 (Text.paddedHexDigits 4 code) = code ∧
        isSurrogate code = false := by decide +kernel
    exact codes _ control
  · have specials : ['<', '>', '&', '\u2028', '\u2029'].all (fun special =>
        decide (CodeDigits (Text.paddedHexDigits 4 special.toNat) ∧
          Text.numeralValue 16 (Text.paddedHexDigits 4 special.toNat) = special.toNat ∧
          isSurrogate special.toNat = false)) = true := by decide +kernel
    exact of_decide_eq_true (List.all_eq_true.mp specials character special)

theorem spellsText_escape (character : Char) {text characters : List Char}
    (others : SpellsText text characters) :
    SpellsText (character :: text) (escape character ++ characters) := by
  rw [escape]
  cases written : shortEscapes.lookup character with
  | some letter => exact .letter (letterEscapes_of_shortEscapes written) others
  | none =>
      dsimp only
      split
      next needed =>
        rcases codeDigits_of_needsCode needed with ⟨coded, value, whole⟩
        have spelled := SpellsText.code coded (by rw [value]; exact whole) others
        rw [value, Char.ofNat_toNat] at spelled
        exact spelled
      next direct =>
        have visible : 0x20 ≤ character.toNat := by
          simp only [needsCode, Bool.or_eq_true, decide_eq_true_eq, not_or] at direct
          exact Nat.le_of_not_lt direct.1
        have isPlain : character ∉ ['\x22', '\\'] := by
          simp only [List.mem_cons, List.not_mem_nil, or_false]
          rintro (rfl | rfl) <;> cases written
        exact .plain visible isPlain others

theorem spellsText_flatMap_escape (text : List Char) : SpellsText text (text.flatMap escape) := by
  induction text with
  | nil => exact .empty
  | cons character text induction => exact spellsText_escape character induction

theorem spells_quoted (text : String) : Spells (.string text) (quoted text) :=
  .string (spellsText_flatMap_escape text.toList)

theorem Spells.spaced {value : Value} {characters : List Char}
    (spelled : Spells value characters) : SpellsSpaced value characters := by
  have spaced : SpellsSpaced value ([] ++ (characters ++ [])) := .spaced .nil spelled .nil
  rwa [List.nil_append, List.append_nil] at spaced

theorem Spells.member {value : Value} {characters : List Char}
    (spelled : Spells value characters) (name : String) :
    SpellsMember (name, value) (quoted name ++ ':' :: characters) := by
  have member : SpellsMember (name, value)
      ([] ++ '\x22' :: (name.toList.flatMap escape ++ '\x22' :: ([] ++ ':' :: characters))) :=
    .member .nil (spellsText_flatMap_escape name.toList) .nil spelled.spaced
  simpa [quoted] using member

theorem spellsMember_quoted (name text : String) :
    SpellsMember (name, .string text) (quoted name ++ ':' :: quoted text) :=
  (spells_quoted text).member name

end MipsGloss.Json
