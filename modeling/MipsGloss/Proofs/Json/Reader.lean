import MipsGloss.Proofs.Json.Grammar

namespace MipsGloss.Json

/-! The reader finds every value that the grammar spells, whatever way it is spelled in,
and stops right behind it. -/

/-! ## Space -/

theorem skipSpace_append {space rest : List Char} (blank : Space space)
    (stops : ∀ character, rest.head? = some character → isSpace character = false) :
    skipSpace (space ++ rest) = rest := by
  rw [skipSpace, List.dropWhile_append_of_pos blank]
  cases rest with
  | nil => rfl
  | cons first tail => rw [List.dropWhile_cons_of_neg (by simp [stops first rfl])]

theorem skipSpace_append_cons {space : List Char} {first : Char} (blank : Space space)
    (stops : isSpace first = false) (rest : List Char) :
    skipSpace (space ++ first :: rest) = first :: rest := by
  apply skipSpace_append blank
  rintro character ⟨⟩
  exact stops

/-! ## Strings -/

theorem readUnits_plain {character : Char} (visible : 0x20 ≤ character.toNat)
    (isPlain : character ∉ ['\x22', '\\']) (rest : List Char) :
    readUnits (character :: rest) =
      (readUnits rest).map fun found => (.plain character :: found.1, found.2) := by
  have noQuote : character ≠ '\x22' := fun equal => isPlain (by simp [equal])
  have noBackslash : character ≠ '\\' := fun equal => isPlain (by simp [equal])
  have direct : ¬(character.toNat < 0x20 ∨ character = '\\') := by
    rintro (control | backslash)
    · omega
    · exact noBackslash backslash
  rw [readUnits, if_neg direct]
  · exact noQuote
  · exact fun _ _ _ _ _ equal => absurd equal noBackslash
  · exact fun _ _ equal => absurd equal noBackslash

theorem readUnits_letter {letter character : Char}
    (known : letterEscapes.lookup letter = some character) (rest : List Char) :
    readUnits ('\\' :: letter :: rest) =
      (readUnits rest).map fun found => (.plain character :: found.1, found.2) := by
  have noCode : letter ≠ 'u' := by
    rintro rfl
    cases known
  rw [readUnits, known]
  exact fun _ _ _ _ _ equal => absurd equal noCode

theorem readUnits_code {digits : List Char} (coded : CodeDigits digits) (rest : List Char) :
    readUnits ('\\' :: 'u' :: (digits ++ rest)) =
      (readUnits rest).map fun found =>
        (.coded (Text.numeralValue 16 digits) :: found.1, found.2) := by
  match digits, coded with
  | [first, second, third, fourth], ⟨_, hexadecimal⟩ =>
      simp only [List.cons_append, List.nil_append]
      rw [readUnits, if_pos hexadecimal]

theorem ofCode_of_isSurrogate {code : Nat} (half : isSurrogate code = true) :
    ofCode code = replacement := by
  rw [ofCode, ← isSurrogate, half, if_pos rfl]

theorem ofCode_of_not_isSurrogate {code : Nat} (whole : isSurrogate code = false) :
    ofCode code = Char.ofNat code := by
  rw [ofCode, ← isSurrogate, whole, if_neg Bool.false_ne_true]

/-- A code that makes no pair with the one behind it stands for a character by itself. -/
theorem joinUnits_coded {code : Nat} {units : List TextUnit}
    (apart : isHighSurrogate code = true → ∀ low others, units = .coded low :: others →
      isLowSurrogate low = false) :
    joinUnits (.coded code :: units) = ofCode code :: joinUnits units := by
  match units with
  | [] => rfl
  | .plain character :: others => rfl
  | .coded low :: others =>
      have single : (isHighSurrogate code && isLowSurrogate low) ≠ true := by
        rw [Ne, Bool.and_eq_true, not_and]
        intro isHigh
        simp [apart isHigh low others rfl]
      rw [joinUnits, if_neg single]

/-- The units of a text that is spelled by characters. -/
structure UnitsOf (text characters : List Char) (units : List TextUnit) : Prop where
  reads : ∀ rest, readUnits (characters ++ '\x22' :: rest) = some (units, rest)
  joins : joinUnits units = text
  coded : ∀ code others, units = .coded code :: others → ∃ digits rest, CodeDigits digits ∧
    Text.numeralValue 16 digits = code ∧ characters = '\\' :: 'u' :: (digits ++ rest)

theorem SpellsText.exists_unitsOf {text characters : List Char}
    (spelled : SpellsText text characters) : ∃ units, UnitsOf text characters units := by
  induction spelled with
  | empty => exact ⟨[], fun rest => by rw [List.nil_append, readUnits], rfl, nofun⟩
  | @plain character _ _ visible isPlain _ induction =>
      rcases induction with ⟨units, read⟩
      refine ⟨.plain character :: units, fun rest => ?_, ?_, nofun⟩
      · rw [List.cons_append, readUnits_plain visible isPlain, read.reads]
        rfl
      · rw [joinUnits, read.joins]
  | @letter _ character _ _ known _ induction =>
      rcases induction with ⟨units, read⟩
      refine ⟨.plain character :: units, fun rest => ?_, ?_, nofun⟩
      · rw [List.cons_append, List.cons_append, readUnits_letter known, read.reads]
        rfl
      · rw [joinUnits, read.joins]
  | @code digits _ _ coded whole _ induction =>
      rcases induction with ⟨units, read⟩
      refine ⟨.coded (Text.numeralValue 16 digits) :: units, fun rest => ?_, ?_, ?_⟩
      · rw [List.cons_append, List.cons_append, List.append_assoc, readUnits_code coded,
          read.reads]
        rfl
      · have noHigh : isHighSurrogate (Text.numeralValue 16 digits) = false := by
          rw [isSurrogate, Bool.or_eq_false_iff] at whole
          exact whole.1
        rw [joinUnits_coded (by simp [noHigh]), ofCode_of_not_isSurrogate whole, read.joins]
      · rintro _ _ ⟨⟩
        exact ⟨digits, _, coded, rfl, rfl⟩
  | @pair high low _ _ first second isHigh isLow _ induction =>
      rcases induction with ⟨units, read⟩
      refine ⟨.coded (Text.numeralValue 16 high) :: .coded (Text.numeralValue 16 low) :: units,
        fun rest => ?_, ?_, ?_⟩
      · simp only [List.cons_append, List.append_assoc]
        rw [readUnits_code first, readUnits_code second, read.reads]
        rfl
      · rw [joinUnits, isHigh, isLow, Bool.and_self, if_pos rfl, read.joins]
      · rintro _ _ ⟨⟩
        exact ⟨high, _, first, rfl, rfl⟩
  | @lone digits _ _ coded half alone _ induction =>
      rcases induction with ⟨units, read⟩
      refine ⟨.coded (Text.numeralValue 16 digits) :: units, fun rest => ?_, ?_, ?_⟩
      · rw [List.cons_append, List.cons_append, List.append_assoc, readUnits_code coded,
          read.reads]
        rfl
      · have apart : isHighSurrogate (Text.numeralValue 16 digits) = true →
            ∀ low others, units = .coded low :: others → isLowSurrogate low = false := by
          intro isHigh low others next
          rcases read.coded low others next with ⟨lowDigits, rest, four, rfl, follows⟩
          exact alone isHigh lowDigits rest four follows
        rw [joinUnits_coded apart, ofCode_of_isSurrogate half, read.joins]
      · rintro _ _ ⟨⟩
        exact ⟨digits, _, coded, rfl, rfl⟩

theorem readString_append {text : String} {characters : List Char}
    (spelled : SpellsText text.toList characters) (rest : List Char) :
    readString (characters ++ '\x22' :: rest) = some (text, rest) := by
  rcases spelled.exists_unitsOf with ⟨units, read⟩
  simp only [readString, read.reads, Option.map_some, read.joins, String.ofList_toList]

/-! ## Numbers

A number is read as far as it goes, so what stands behind it must not go on with it. -/

def continuesNumber (character : Char) : Bool :=
  Text.isDecimalDigit character || ['.', 'e', 'E'].contains character

/-- Characters that do not go on with a number. -/
def Ends (rest : List Char) : Prop :=
  ∀ character, rest.head? = some character → continuesNumber character = false

/-- Characters that do not go on with digits. -/
def EndsDigits (rest : List Char) : Prop :=
  ∀ character, rest.head? = some character → Text.isDecimalDigit character = false

theorem Ends.endsDigits {rest : List Char} (ends : Ends rest) : EndsDigits rest := by
  intro character first
  have stops := ends character first
  rw [continuesNumber, Bool.or_eq_false_iff] at stops
  exact stops.1

theorem takeDigits?_append {digits rest : List Char} (isDigits : Digits digits)
    (ends : EndsDigits rest) : takeDigits? (digits ++ rest) = some (digits, rest) := by
  have behind : rest.takeWhile Text.isDecimalDigit = [] ∧
      rest.dropWhile Text.isDecimalDigit = rest := by
    cases rest with
    | nil => exact ⟨rfl, rfl⟩
    | cons first tail => simp [ends first rfl]
  rw [takeDigits?, List.takeWhile_append_of_pos isDigits.2,
    List.dropWhile_append_of_pos isDigits.2, behind.1, behind.2, List.append_nil]
  cases digits with
  | nil => exact absurd rfl isDigits.1
  | cons first tail => rfl

theorem takeWhole?_append {whole rest : List Char} (isWhole : Whole whole)
    (ends : EndsDigits rest) : takeWhole? (whole ++ rest) = some (whole, rest) := by
  cases isWhole with
  | zero => rfl
  | digits isDigits leading =>
      rw [takeWhole?, takeDigits?_append isDigits ends]
      intro tail equal
      cases whole with
      | nil => exact isDigits.1 rfl
      | cons first others =>
          cases equal
          exact leading rfl

theorem takeFraction?_append {fraction rest : List Char} (isFraction : Fraction fraction)
    (ends : EndsDigits rest) (noPoint : rest.head? ≠ some '.') :
    takeFraction? (fraction ++ rest) = some (fraction, rest) := by
  cases isFraction with
  | absent =>
      rw [List.nil_append, takeFraction?]
      rintro tail rfl
      exact noPoint rfl
  | digits isDigits =>
      rw [List.cons_append, takeFraction?, takeDigits?_append isDigits ends]
      rfl

theorem takeSign_append {sign digits rest : List Char} (signed : sign ∈ [[], ['+'], ['-']])
    (isDigits : Digits digits) :
    takeSign (sign ++ (digits ++ rest)) = (sign, digits ++ rest) := by
  simp only [List.mem_cons, List.not_mem_nil, or_false] at signed
  rcases signed with rfl | rfl | rfl
  · match digits, isDigits with
    | first :: others, ⟨_, isDigit⟩ =>
        have digit := isDigit first List.mem_cons_self
        rw [List.nil_append, List.cons_append, takeSign]
        · rintro _ ⟨⟩
          cases digit
        · rintro _ ⟨⟩
          cases digit
  · rfl
  · rfl

theorem takeExponent?_append {exponent rest : List Char} (isExponent : Exponent exponent)
    (ends : Ends rest) : takeExponent? (exponent ++ rest) = some (exponent, rest) := by
  cases isExponent with
  | absent =>
      cases rest with
      | nil => rfl
      | cons first tail =>
          have unmarked : ¬(first = 'e' ∨ first = 'E') := by
            have stops := ends first rfl
            rintro (rfl | rfl) <;> cases stops
          rw [List.nil_append, takeExponent?, if_neg unmarked]
  | digits marked signed isDigits =>
      rw [List.cons_append, List.append_assoc, takeExponent?, if_pos marked]
      simp only [takeSign_append signed isDigits, takeDigits?_append isDigits ends.endsDigits,
        Option.map_some, List.cons_append]

/-- What follows the digits of a whole part or of a fraction is no digit. -/
theorem endsDigits_exponent {exponent rest : List Char} (isExponent : Exponent exponent)
    (ends : Ends rest) :
    EndsDigits (exponent ++ rest) ∧ (exponent ++ rest).head? ≠ some '.' := by
  cases isExponent with
  | absent =>
      refine ⟨ends.endsDigits, fun point => ?_⟩
      have stops := ends '.' point
      cases stops
  | digits marked signed isDigits =>
      rcases marked with rfl | rfl
      · refine ⟨?_, by simp⟩
        rintro _ ⟨⟩
        rfl
      · refine ⟨?_, by simp⟩
        rintro _ ⟨⟩
        rfl

theorem endsDigits_fraction {fraction rest : List Char} (isFraction : Fraction fraction)
    (ends : EndsDigits rest) : EndsDigits (fraction ++ rest) := by
  cases isFraction with
  | absent => exact ends
  | digits isDigits =>
      rintro _ ⟨⟩
      rfl

theorem Whole.exists_digit {whole : List Char} (isWhole : Whole whole) :
    ∃ first others, whole = first :: others ∧ Text.isDecimalDigit first = true := by
  cases isWhole with
  | zero => exact ⟨'0', [], rfl, rfl⟩
  | digits isDigits leading =>
      match whole, isDigits with
      | first :: others, ⟨_, isDigit⟩ => exact ⟨first, others, rfl, isDigit _ List.mem_cons_self⟩

theorem readNumber_append {characters rest : List Char} (numeral : Numeral characters)
    (ends : Ends rest) :
    readNumber (characters ++ rest) = some (String.ofList characters, rest) := by
  rcases numeral with @⟨sign, whole, fraction, exponent, signed, isWhole, isFraction, isExponent⟩
  rcases endsDigits_exponent isExponent ends with ⟨endsFraction, noPoint⟩
  have takesWhole := takeWhole?_append isWhole (endsDigits_fraction isFraction endsFraction)
  have takesFraction := takeFraction?_append isFraction endsFraction noPoint
  have takesExponent := takeExponent?_append isExponent ends
  simp only [List.mem_cons, List.not_mem_nil, or_false] at signed
  rcases signed with rfl | rfl
  · rcases isWhole.exists_digit with ⟨first, others, rfl, digit⟩
    have noSign : first ≠ '-' := by
      rintro rfl
      cases digit
    rw [List.cons_append] at takesWhole
    simp only [List.nil_append, List.cons_append, List.append_assoc]
    rw [readNumber]
    · simp [takesWhole, takesFraction, takesExponent, String.append_assoc]
    · rintro tail ⟨⟩
      exact noSign rfl
  · simp [readNumber, takesWhole, takesFraction, takesExponent]

/-! ## Values

The fuel that a reader is given is compared with the characters that it takes. A value
takes a step for itself, and items or members take one more than the value that they
begin with. -/

/-- The characters that a value can begin with. -/
def beginsValue (character : Char) : Bool :=
  Text.isDecimalDigit character || ['-', 'n', 't', 'f', '\x22', '[', '\x7b'].contains character

theorem not_isSpace_of_beginsValue {character : Char} (begins : beginsValue character = true) :
    isSpace character = false := by
  apply Bool.eq_false_iff.mpr
  intro blank
  simp only [isSpace, List.contains_iff_mem, List.mem_cons, List.not_mem_nil, or_false] at blank
  rcases blank with rfl | rfl | rfl | rfl <;> cases begins

theorem Numeral.exists_first {characters : List Char} (numeral : Numeral characters) :
    ∃ first others, characters = first :: others ∧
      (first = '-' ∨ Text.isDecimalDigit first = true) := by
  rcases numeral with @⟨sign, whole, fraction, exponent, signed, isWhole, _, _⟩
  simp only [List.mem_cons, List.not_mem_nil, or_false] at signed
  rcases signed with rfl | rfl
  · rcases isWhole.exists_digit with ⟨first, others, rfl, digit⟩
    exact ⟨first, _, rfl, .inr digit⟩
  · exact ⟨'-', _, rfl, .inl rfl⟩

theorem Spells.exists_first {value : Value} {characters : List Char}
    (spelled : Spells value characters) :
    ∃ first others, characters = first :: others ∧ beginsValue first = true := by
  cases spelled with
  | number numeral =>
      rcases numeral.exists_first with ⟨first, others, shape, rfl | digit⟩
      · exact ⟨'-', others, shape, rfl⟩
      · exact ⟨first, others, shape, by rw [beginsValue, digit, Bool.true_or]⟩
  | _ => exact ⟨_, _, rfl, rfl⟩

/-- Space in front of a value is skipped, and nothing else is. -/
theorem Spells.skipSpace_append {value : Value} {before characters : List Char}
    (ahead : Space before) (spelled : Spells value characters) (rest : List Char) :
    skipSpace (before ++ (characters ++ rest)) = characters ++ rest := by
  rcases spelled.exists_first with ⟨first, others, rfl, begins⟩
  exact skipSpace_append_cons ahead (not_isSpace_of_beginsValue begins) _

theorem not_continuesNumber_of_isSpace {character : Char} (blank : isSpace character = true) :
    continuesNumber character = false := by
  simp only [isSpace, List.contains_iff_mem, List.mem_cons, List.not_mem_nil, or_false] at blank
  rcases blank with rfl | rfl | rfl | rfl <;> rfl

/-- Space does not go on with a number. -/
theorem Ends.append {space rest : List Char} (blank : Space space) (ends : Ends rest) :
    Ends (space ++ rest) := by
  cases space with
  | nil => exact ends
  | cons first tail =>
      rintro _ ⟨⟩
      exact not_continuesNumber_of_isSpace (blank first List.mem_cons_self)

def ReadsValues (fuel : Nat) : Prop :=
  ∀ {value : Value} {before characters : List Char}, Space before → Spells value characters →
    ∀ {rest : List Char}, Ends rest → 2 * characters.length < fuel →
      readValue fuel (before ++ (characters ++ rest)) = some (value, rest)

def ReadsItems (fuel : Nat) : Prop :=
  ∀ {items : List Value} {characters : List Char}, Listed SpellsSpaced items characters →
    ∀ rest : List Char, 2 * characters.length + 1 < fuel →
      readItems fuel (characters ++ ']' :: rest) = some (items, rest)

def ReadsMembers (fuel : Nat) : Prop :=
  ∀ {members : List (String × Value)} {characters : List Char},
    Listed SpellsMember members characters →
    ∀ rest : List Char, 2 * characters.length + 1 < fuel →
      readMembers fuel (characters ++ '\x7d' :: rest) = some (members, rest)

theorem readValue_number {fuel : Nat} {characters : List Char} {first : Char} {others : List Char}
    (skipped : skipSpace characters = first :: others)
    (begins : first = '-' ∨ Text.isDecimalDigit first = true) :
    readValue (fuel + 1) characters =
      (readNumber (first :: others)).map fun found => (.number found.1, found.2) := by
  have apart : first ∉ ['n', 't', 'f', '\x22', '[', '\x7b'] := by
    simp only [List.mem_cons, List.not_mem_nil, or_false]
    rcases begins with rfl | digit
    · decide
    · rintro (rfl | rfl | rfl | rfl | rfl | rfl) <;> cases digit
  rw [readValue, skipped]
  split
  all_goals first
    | rfl
    | (next equal => cases equal; simp at apart)

/-- Items begin with something that does not close their array. -/
theorem Listed.exists_first_item {items : List Value} {characters : List Char}
    (listed : Listed SpellsSpaced items characters) (rest : List Char) :
    ∃ first others, skipSpace (characters ++ rest) = first :: others ∧ first ≠ ']' := by
  have item {value : Value} {characters : List Char} (spaced : SpellsSpaced value characters)
      (rest : List Char) :
      ∃ first others, skipSpace (characters ++ rest) = first :: others ∧ first ≠ ']' := by
    rcases spaced with @⟨_, before, inner, after, ahead, spelled, _⟩
    rcases spelled.exists_first with ⟨first, others, rfl, begins⟩
    have skipped := spelled.skipSpace_append ahead (after ++ rest)
    refine ⟨first, _, by simpa using skipped, ?_⟩
    rintro rfl
    cases begins
  cases listed with
  | last spaced => exact item spaced rest
  | more spaced listed =>
      rw [List.append_assoc]
      exact item spaced _

theorem Listed.exists_first_member {members : List (String × Value)} {characters : List Char}
    (listed : Listed SpellsMember members characters) (rest : List Char) :
    ∃ others, skipSpace (characters ++ rest) = '\x22' :: others := by
  have member {entry : String × Value} {characters : List Char}
      (spelled : SpellsMember entry characters) (rest : List Char) :
      ∃ others, skipSpace (characters ++ rest) = '\x22' :: others := by
    rcases spelled with ⟨ahead, _, _, _⟩
    rw [List.append_assoc, List.cons_append]
    exact ⟨_, skipSpace_append_cons ahead rfl _⟩
  cases listed with
  | last spelled => exact member spelled rest
  | more spelled listed =>
      rw [List.append_assoc]
      exact member spelled _

theorem readsValues_succ {fuel : Nat} (readsItems : ReadsItems fuel)
    (readsMembers : ReadsMembers fuel) : ReadsValues (fuel + 1) := by
  intro value before characters ahead spelled rest ends enough
  have skipped := spelled.skipSpace_append ahead rest
  cases spelled with
  | null => rw [readValue, skipped]; rfl
  | truth => rw [readValue, skipped]; rfl
  | falsehood => rw [readValue, skipped]; rfl
  | number numeral =>
      rcases numeral.exists_first with ⟨first, others, rfl, begins⟩
      rw [readValue_number skipped begins]
      have read := readNumber_append numeral ends
      rw [List.cons_append] at read
      simp only [List.append_eq, read, Option.map_some]
  | string spelled =>
      rw [readValue, skipped]
      simp [readString_append spelled]
  | @emptyArray space blank =>
      have closes : skipSpace (space ++ ']' :: rest) = ']' :: rest :=
        skipSpace_append_cons blank rfl rest
      rw [readValue, skipped]
      simp [closes]
  | array listed =>
      rcases listed.exists_first_item (']' :: rest) with ⟨first, others, opens, item⟩
      have read := readsItems listed rest (by simp at enough; omega)
      rw [readValue, skipped]
      simp [opens, item, read]
  | @emptyObject space blank =>
      have closes : skipSpace (space ++ '\x7d' :: rest) = '\x7d' :: rest :=
        skipSpace_append_cons blank rfl rest
      rw [readValue, skipped]
      simp [closes]
  | object listed =>
      rcases listed.exists_first_member ('\x7d' :: rest) with ⟨others, opens⟩
      have read := readsMembers listed rest (by simp at enough; omega)
      rw [readValue, skipped]
      simp [opens, read]

/-- A value with space on both sides is read up to the space behind it, which is skipped
with the next step. -/
theorem SpellsSpaced.exists_read {fuel : Nat} (readsValues : ReadsValues fuel) {value : Value}
    {characters : List Char} (spaced : SpellsSpaced value characters) (delimiter : Char)
    (delimits : continuesNumber delimiter = false) (visible : isSpace delimiter = false)
    (rest : List Char) (enough : 2 * characters.length < fuel) :
    ∃ behind, readValue fuel (characters ++ delimiter :: rest) = some (value, behind) ∧
      skipSpace behind = delimiter :: rest := by
  rcases spaced with @⟨_, before, inner, after, ahead, spelled, behind⟩
  simp only [List.length_append] at enough
  have ends : Ends (delimiter :: rest) := by
    rintro _ ⟨⟩
    exact delimits
  have read := readsValues ahead spelled (ends.append behind) (by omega)
  rw [List.append_assoc, List.append_assoc]
  exact ⟨_, read, skipSpace_append_cons behind visible rest⟩

theorem readsItems_succ {fuel : Nat} (readsValues : ReadsValues fuel)
    (readsItems : ReadsItems fuel) : ReadsItems (fuel + 1) := by
  intro items characters listed rest enough
  cases listed with
  | last spaced =>
      rcases spaced.exists_read readsValues ']' rfl rfl rest (by omega) with
        ⟨behind, read, skipped⟩
      rw [readItems, read]
      simp only [skipped]
  | @more item items inner others spaced listed =>
      simp only [List.length_append, List.length_cons] at enough
      rcases spaced.exists_read readsValues ',' rfl rfl (others ++ ']' :: rest) (by omega) with
        ⟨behind, read, skipped⟩
      rw [List.append_assoc, List.cons_append, readItems, read]
      simp only [skipped, readsItems listed rest (by omega), Option.map_some]

/-- What is read of a member that a delimiter follows, step by step. -/
def MemberRead (fuel : Nat) (member : String × Value) (characters rest : List Char) : Prop :=
  ∃ named valued after,
    skipSpace characters = '\x22' :: named ∧
    (∃ behind, readString named = some (member.1, behind) ∧ skipSpace behind = ':' :: valued) ∧
    readValue fuel valued = some (member.2, after) ∧ skipSpace after = rest

theorem SpellsMember.memberRead {fuel : Nat} (readsValues : ReadsValues fuel)
    {member : String × Value} {characters : List Char} (spelled : SpellsMember member characters)
    (delimiter : Char) (delimits : continuesNumber delimiter = false)
    (visible : isSpace delimiter = false) (rest : List Char)
    (enough : 2 * characters.length < fuel) :
    MemberRead fuel member (characters ++ delimiter :: rest) (delimiter :: rest) := by
  rcases spelled with
    @⟨name, value, before, inner, between, characters, ahead, named, behind, spaced⟩
  simp only [List.length_append, List.length_cons] at enough
  rcases spaced.exists_read readsValues delimiter delimits visible rest (by omega) with
    ⟨after, read, skipped⟩
  simp only [List.append_assoc, List.cons_append]
  exact ⟨_, _, after, skipSpace_append_cons ahead rfl _,
    ⟨_, readString_append named _, skipSpace_append_cons behind rfl _⟩, read, skipped⟩

theorem readMembers_last {fuel : Nat} {member : String × Value} {characters rest : List Char}
    (read : MemberRead fuel member characters ('\x7d' :: rest)) :
    readMembers (fuel + 1) characters = some ([member], rest) := by
  rcases read with ⟨named, valued, after, opens, ⟨behind, name, colon⟩, value, skipped⟩
  rw [readMembers, opens]
  simp only [name, colon, value, skipped]

theorem readMembers_more {fuel : Nat} {member : String × Value} {characters rest : List Char}
    (read : MemberRead fuel member characters (',' :: rest)) :
    readMembers (fuel + 1) characters =
      (readMembers fuel rest).map fun found => (member :: found.1, found.2) := by
  rcases read with ⟨named, valued, after, opens, ⟨behind, name, colon⟩, value, skipped⟩
  rw [readMembers, opens]
  simp only [name, colon, value, skipped]

theorem readsMembers_succ {fuel : Nat} (readsValues : ReadsValues fuel)
    (readsMembers : ReadsMembers fuel) : ReadsMembers (fuel + 1) := by
  intro members characters listed rest enough
  cases listed with
  | last spelled =>
      exact readMembers_last (spelled.memberRead readsValues '\x7d' rfl rfl rest (by omega))
  | @more member members inner others spelled listed =>
      simp only [List.length_append, List.length_cons] at enough
      rw [List.append_assoc, List.cons_append,
        readMembers_more (spelled.memberRead readsValues ',' rfl rfl _ (by omega)),
        readsMembers listed rest (by omega), Option.map_some]

theorem reads (fuel : Nat) : ReadsValues fuel ∧ ReadsItems fuel ∧ ReadsMembers fuel := by
  induction fuel with
  | zero =>
      refine ⟨?_, ?_, ?_⟩
      · intro _ _ _ _ _ _ _ enough
        exact absurd enough (Nat.not_lt_zero _)
      · intro _ _ _ _ enough
        exact absurd enough (Nat.not_lt_zero _)
      · intro _ _ _ _ enough
        exact absurd enough (Nat.not_lt_zero _)
  | succ fuel induction =>
      rcases induction with ⟨values, items, members⟩
      exact ⟨readsValues_succ items members, readsItems_succ values items,
        readsMembers_succ values members⟩

/-! ## Texts -/

/-- A value is read, and the space behind it is left. -/
theorem readAny_of_spells {value : Value} {text : String} {before characters after : List Char}
    (whole : text.toList = before ++ (characters ++ after)) (ahead : Space before)
    (spelled : Spells value characters) (behind : Space after) :
    readAny text = some (value, after) := by
  have enough : 2 * characters.length < 2 * (before ++ (characters ++ after)).length + 1 := by
    simp only [List.length_append]
    omega
  have ends : Ends (after ++ []) := Ends.append behind nofun
  rw [List.append_nil] at ends
  rw [readAny, whole]
  exact (reads _).1 ahead spelled ends enough

/-- A value is read out of every text that spells it. -/
theorem exists_readAny {value : Value} {text : String}
    (spelled : SpellsSpaced value text.toList) : ∃ rest, readAny text = some (value, rest) := by
  generalize whole : text.toList = characters at spelled
  rcases spelled with @⟨_, before, inner, after, ahead, spelled, behind⟩
  exact ⟨after, readAny_of_spells whole ahead spelled behind⟩

theorem read_of_readAny {value : Value} {text : String} {rest : List Char}
    (found : readAny text = some (value, rest)) (shallow : value.depth ≤ depthLimit) :
    read text = some (value, rest) := by
  rw [read, found, Option.filter_some, if_pos (decide_eq_true shallow)]

end MipsGloss.Json
