import MipsGloss.Listing.Line
import MipsGloss.Proofs.Text

namespace MipsGloss.Listing

/-! The parts of a line, as they are written, and what the readers of parts take. A part
is taken exactly where it is written. -/

theorem isGap_of_isHexDigit {character : Char} (digit : Text.isHexDigit character = true) :
    Text.isGap character = false := by
  apply Bool.eq_false_iff.mpr
  intro gap
  have blank := Text.isBlank_of_isGap gap
  rw [Text.isBlank_of_isHexDigit digit] at blank
  cases blank

/-! ## Gaps and digits -/

@[ext]
structure Gap where
  characters : List Char
  filled : characters ≠ []
  spaced : ∀ character ∈ characters, Text.isGap character = true

theorem Gap.exists_cons (gap : Gap) :
    ∃ first others, gap.characters = first :: others ∧ Text.isGap first = true := by
  cases written : gap.characters with
  | nil => exact absurd written gap.filled
  | cons first others =>
      exact ⟨first, others, rfl, gap.spaced first (by simp [written])⟩

theorem Gap.stops_append (gap : Gap) (rest : List Char) :
    Text.Stops Text.isHexDigit (gap.characters ++ rest) := by
  rcases gap.exists_cons with ⟨first, others, written, spaced⟩
  rw [written, List.cons_append]
  apply Text.stops_cons
  apply Bool.eq_false_iff.mpr
  intro digit
  rw [isGap_of_isHexDigit digit] at spaced
  cases spaced

theorem skipGap?_eq_some_iff {characters rest : List Char} :
    skipGap? characters = some rest ↔
      Text.Stops Text.isGap rest ∧ ∃ gap : Gap, characters = gap.characters ++ rest := by
  constructor
  · intro skipped
    cases characters with
    | nil => cases skipped
    | cons first others =>
        rw [skipGap?] at skipped
        split at skipped
        · next spaced =>
            cases skipped
            refine ⟨Text.stops_dropWhile Text.isGap others,
              ⟨first :: others.takeWhile Text.isGap, by simp, ?_⟩, ?_⟩
            · intro character member
              rcases List.mem_cons.mp member with rfl | member
              · exact spaced
              · exact List.mem_takeWhile_imp member
            · rw [List.cons_append, List.takeWhile_append_dropWhile]
        · cases skipped
  · rintro ⟨stops, gap, rfl⟩
    rcases gap.exists_cons with ⟨first, others, written, spaced⟩
    have othersSpaced : ∀ character ∈ others, Text.isGap character = true :=
      fun character member => gap.spaced character (by simp [written, member])
    rw [written, List.cons_append, skipGap?, if_pos spaced,
      Text.dropWhile_append_of_stops othersSpaced stops]

def HexDigits (count : Nat) (digits : List Char) : Prop :=
  digits.length = count ∧ ∀ digit ∈ digits, Text.isHexDigit digit = true

@[ext]
structure Digits (count : Nat) where
  characters : List Char
  spelled : HexDigits count characters

theorem takeHex?_eq_some_iff {count : Nat} {characters digits rest : List Char} :
    takeHex? count characters = some (digits, rest) ↔
      HexDigits count digits ∧ characters = digits ++ rest := by
  constructor
  · intro taken
    rw [takeHex?] at taken
    split at taken
    · next spelled =>
        cases taken
        exact ⟨⟨spelled.1, List.all_eq_true.mp spelled.2⟩,
          (List.take_append_drop count characters).symm⟩
    · cases taken
  · rintro ⟨⟨length, hexadecimal⟩, rfl⟩
    rw [takeHex?, List.take_left' length, List.drop_left' length]
    exact if_pos ⟨length, List.all_eq_true.mpr hexadecimal⟩

/-- The digits of an address, of which there may be any number. -/
@[ext]
structure Numeral where
  characters : List Char
  filled : characters ≠ []
  hexadecimal : ∀ digit ∈ characters, Text.isHexDigit digit = true

theorem Numeral.exists_cons (numeral : Numeral) :
    ∃ first others, numeral.characters = first :: others ∧ Text.isHexDigit first = true := by
  cases written : numeral.characters with
  | nil => exact absurd written numeral.filled
  | cons first others =>
      exact ⟨first, others, rfl, numeral.hexadecimal first (by simp [written])⟩

theorem takeAddress?_eq_some_iff {characters digits rest : List Char} :
    takeAddress? characters = some (digits, rest) ↔
      Text.Stops Text.isHexDigit rest ∧
        ∃ numeral : Numeral, numeral.characters = digits ∧ characters = digits ++ rest := by
  constructor
  · intro taken
    rw [takeAddress?] at taken
    split at taken
    · cases taken
    · next filled =>
        cases taken
        exact ⟨Text.stops_dropWhile Text.isHexDigit characters,
          ⟨_, filled, fun _ member => List.mem_takeWhile_imp member⟩, rfl,
          List.takeWhile_append_dropWhile.symm⟩
  · rintro ⟨stops, numeral, rfl, rfl⟩
    rw [takeAddress?, Text.takeWhile_append_of_stops numeral.hexadecimal stops,
      Text.dropWhile_append_of_stops numeral.hexadecimal stops]
    split
    · next empty => exact absurd empty numeral.filled
    · rfl

/-! ## Encoded words -/

/-- How an encoded word is written. -/
inductive Encoding where
  | number (digits : Digits 8)
  | bytes (first : Digits 2) (firstGap : Gap) (second : Digits 2) (secondGap : Gap)
      (third : Digits 2) (thirdGap : Gap) (fourth : Digits 2)

def Encoded.Spelled : Encoded → Prop
  | .number digits => HexDigits 8 digits
  | .bytes first second third fourth =>
      HexDigits 2 first ∧ HexDigits 2 second ∧ HexDigits 2 third ∧ HexDigits 2 fourth

namespace Encoding

def characters : Encoding → List Char
  | .number digits => digits.characters
  | .bytes first firstGap second secondGap third thirdGap fourth =>
      first.characters ++ (firstGap.characters ++ (second.characters ++
        (secondGap.characters ++ (third.characters ++
          (thirdGap.characters ++ fourth.characters)))))

def encoded : Encoding → Encoded
  | .number digits => .number digits.characters
  | .bytes first _ second _ third _ fourth =>
      .bytes first.characters second.characters third.characters fourth.characters

theorem spelled_encoded (encoding : Encoding) : encoding.encoded.Spelled := by
  cases encoding with
  | number digits => exact digits.spelled
  | bytes first _ second _ third _ fourth =>
      exact ⟨first.spelled, second.spelled, third.spelled, fourth.spelled⟩

end Encoding

theorem Digits.stops_append {count : Nat} (digits : Digits (count + 1)) (rest : List Char) :
    Text.Stops Text.isGap (digits.characters ++ rest) := by
  rcases digits with ⟨characters, length, hexadecimal⟩
  cases characters with
  | nil => cases length
  | cons first others =>
      exact Text.stops_cons (isGap_of_isHexDigit (hexadecimal first List.mem_cons_self)) _

theorem Encoding.stops_append (encoding : Encoding) (rest : List Char) :
    Text.Stops Text.isGap (encoding.characters ++ rest) := by
  cases encoding with
  | number digits => exact digits.stops_append rest
  | bytes first =>
      rw [Encoding.characters, List.append_assoc]
      exact first.stops_append _

theorem takeByte?_eq_some_iff {characters digits rest : List Char} :
    takeByte? characters = some (digits, rest) ↔
      HexDigits 2 digits ∧ Text.Stops Text.isGap rest ∧
        ∃ gap : Gap, characters = digits ++ (gap.characters ++ rest) := by
  simp only [takeByte?, Option.bind_eq_bind, Option.bind_eq_some_iff, Prod.exists,
    takeHex?_eq_some_iff, skipGap?_eq_some_iff, Option.some.injEq, Prod.mk.injEq]
  constructor
  · rintro ⟨_, _, ⟨spelled, rfl⟩, _, ⟨stops, gap, rfl⟩, rfl, rfl⟩
    exact ⟨spelled, stops, gap, rfl⟩
  · rintro ⟨spelled, stops, gap, rfl⟩
    exact ⟨_, _, ⟨spelled, rfl⟩, _, ⟨stops, gap, rfl⟩, rfl, rfl⟩

theorem takeBytes?_eq_some_iff {characters rest : List Char} {encoded : Encoded} :
    takeBytes? characters = some (encoded, rest) ↔
      ∃ first firstGap second secondGap third thirdGap fourth,
        (Encoding.bytes first firstGap second secondGap third thirdGap fourth).encoded =
          encoded ∧
        characters = (Encoding.bytes first firstGap second secondGap third thirdGap
          fourth).characters ++ rest := by
  simp only [takeBytes?, Option.bind_eq_bind, Option.bind_eq_some_iff, Prod.exists,
    takeByte?_eq_some_iff, takeHex?_eq_some_iff, Option.some.injEq, Prod.mk.injEq]
  constructor
  · rintro ⟨_, _, ⟨first, _, firstGap, rfl⟩, _, _, ⟨second, _, secondGap, rfl⟩,
      _, _, ⟨third, _, thirdGap, rfl⟩, _, _, ⟨fourth, rfl⟩, rfl, rfl⟩
    exact ⟨⟨_, first⟩, firstGap, ⟨_, second⟩, secondGap, ⟨_, third⟩, thirdGap, ⟨_, fourth⟩,
      rfl, by simp [Encoding.characters]⟩
  · rintro ⟨first, firstGap, second, secondGap, third, thirdGap, fourth, rfl, rfl⟩
    simp only [Encoding.characters, List.append_assoc]
    exact ⟨_, _, ⟨first.spelled, second.stops_append _, firstGap, rfl⟩,
      _, _, ⟨second.spelled, third.stops_append _, secondGap, rfl⟩,
      _, _, ⟨third.spelled, fourth.stops_append _, thirdGap, rfl⟩,
      _, _, ⟨fourth.spelled, rfl⟩, rfl, rfl⟩

/-- Behind two digits a number has a third one, and bytes have a gap. -/
theorem number_ne_bytes (digits : Digits 8) (first : Digits 2) (gap : Gap)
    (rest behind : List Char) :
    digits.characters ++ rest ≠ first.characters ++ (gap.characters ++ behind) := by
  intro same
  rcases gap.exists_cons with ⟨space, others, written, spaced⟩
  have bound : 2 < digits.characters.length := by rw [digits.spelled.1]; decide
  have third := congrArg (·[2]?) same
  simp only [List.getElem?_append_left bound,
    List.getElem?_append_right (Nat.le_of_eq first.spelled.1), first.spelled.1, written,
    List.getElem?_eq_getElem bound, Nat.sub_self, List.cons_append, List.getElem?_cons_zero,
    Option.some.injEq] at third
  have digit := digits.spelled.2 _ (List.getElem_mem bound)
  rw [third] at digit
  rw [isGap_of_isHexDigit digit] at spaced
  cases spaced

theorem takeEncoded?_eq_some_iff {characters rest : List Char} {encoded : Encoded} :
    takeEncoded? characters = some (encoded, rest) ↔
      ∃ encoding : Encoding, encoding.encoded = encoded ∧
        characters = encoding.characters ++ rest := by
  have number : takeNumber? characters = some (encoded, rest) ↔
      ∃ digits, (Encoding.number digits).encoded = encoded ∧
        characters = (Encoding.number digits).characters ++ rest := by
    simp only [takeNumber?, Option.bind_eq_bind, Option.bind_eq_some_iff, Prod.exists,
      takeHex?_eq_some_iff, Option.some.injEq, Prod.mk.injEq]
    constructor
    · rintro ⟨_, _, ⟨spelled, rfl⟩, rfl, rfl⟩
      exact ⟨⟨_, spelled⟩, rfl, rfl⟩
    · rintro ⟨digits, rfl, rfl⟩
      exact ⟨_, _, ⟨digits.spelled, rfl⟩, rfl, rfl⟩
  rw [takeEncoded?, Option.or_eq_some_iff, takeBytes?_eq_some_iff, number]
  constructor
  · rintro (⟨first, firstGap, second, secondGap, third, thirdGap, fourth, written⟩ |
      ⟨_, digits, written⟩)
    · exact ⟨.bytes first firstGap second secondGap third thirdGap fourth, written⟩
    · exact ⟨.number digits, written⟩
  · rintro ⟨encoding, written⟩
    cases encoding with
    | bytes first firstGap second secondGap third thirdGap fourth =>
        exact .inl ⟨first, firstGap, second, secondGap, third, thirdGap, fourth, written⟩
    | number digits =>
        refine .inr ⟨?_, digits, written⟩
        cases taken : takeBytes? characters with
        | none => rfl
        | some found =>
            rcases takeBytes?_eq_some_iff.mp taken with
              ⟨first, gap, second, secondGap, third, thirdGap, fourth, _, asBytes⟩
            rw [written.2] at asBytes
            simp only [Encoding.characters, List.append_assoc] at asBytes
            exact absurd asBytes (number_ne_bytes digits first gap _ _)

/-! ## Mnemonics -/

def isMnemonicCharacter (character : Char) : Bool :=
  isSmallOrDigit character || character == '.'

def IsMnemonic (mnemonic : List Char) : Prop :=
  mnemonic ≠ [] ∧ ∀ character ∈ mnemonic, isMnemonicCharacter character = true

/-- What follows the first letter of a mnemonic: small letters and digits, and then
suffixes of at least one of them, each behind a dot. -/
def SpellsTail (characters : List Char) : Prop :=
  ∃ (stem : List Char) (suffixes : List (List Char)),
    characters = stem ++ suffixes.flatMap ('.' :: ·) ∧
    (∀ character ∈ stem, isSmallOrDigit character = true) ∧
    ∀ suffix ∈ suffixes, suffix ≠ [] ∧ ∀ character ∈ suffix, isSmallOrDigit character = true

def SpellsMnemonic (mnemonic : List Char) : Prop :=
  ∃ letter tail, mnemonic = letter :: tail ∧ isSmall letter = true ∧ SpellsTail tail

/-- A mnemonic that cannot be made longer by what stands behind it. -/
def IsLongestMnemonic (mnemonic rest : List Char) : Prop :=
  SpellsMnemonic mnemonic ∧
    ∀ other, SpellsMnemonic other → other <+: mnemonic ++ rest →
      other.length ≤ mnemonic.length

theorem spellsTail_nil : SpellsTail [] := ⟨[], [], rfl, by simp, by simp⟩

theorem startsSuffix_iff {characters : List Char} :
    startsSuffix characters = true ↔
      ∃ first others, characters = first :: others ∧ isSmallOrDigit first = true := by
  cases characters with
  | nil => simp [startsSuffix]
  | cons first others => simp [startsSuffix]

theorem isSmallOrDigit_dot : isSmallOrDigit '.' = false := by decide

/-- A tail begins with a letter or a digit, or with a dot that has one behind it. -/
theorem spellsTail_cons_iff {character : Char} {rest : List Char} :
    SpellsTail (character :: rest) ↔
      (isSmallOrDigit character = true ∨ character = '.' ∧ startsSuffix rest = true) ∧
        SpellsTail rest := by
  constructor
  · rintro ⟨stem, suffixes, written, stemSmall, suffixesSmall⟩
    cases stem with
    | cons first others =>
        cases written
        exact ⟨.inl (stemSmall _ List.mem_cons_self), others, suffixes, rfl,
          fun other member => stemSmall other (List.mem_cons_of_mem _ member), suffixesSmall⟩
    | nil =>
        cases suffixes with
        | nil => cases written
        | cons suffix suffixes =>
            rcases suffixesSmall suffix List.mem_cons_self with ⟨filled, small⟩
            rw [List.nil_append, List.flatMap_cons, List.cons_append] at written
            cases written
            refine ⟨.inr ⟨rfl, ?_⟩, suffix, suffixes, rfl, small,
              fun other member => suffixesSmall other (List.mem_cons_of_mem _ member)⟩
            cases suffix with
            | nil => exact absurd rfl filled
            | cons first others => exact small first List.mem_cons_self
  · rintro ⟨starts, stem, suffixes, rfl, stemSmall, suffixesSmall⟩
    rcases starts with small | ⟨rfl, starts⟩
    · refine ⟨character :: stem, suffixes, rfl, ?_, suffixesSmall⟩
      intro other member
      rcases List.mem_cons.mp member with rfl | member
      · exact small
      · exact stemSmall other member
    · -- The letters behind a dot are a suffix, which cannot be empty.
      refine ⟨[], stem :: suffixes, rfl, by simp, ?_⟩
      intro suffix member
      rcases List.mem_cons.mp member with rfl | member
      · refine ⟨?_, stemSmall⟩
        rintro rfl
        cases suffixes with
        | nil => cases starts
        | cons next others => simp [startsSuffix, isSmallOrDigit_dot] at starts
      · exact suffixesSmall suffix member

theorem spanMnemonic_cons (character : Char) (rest : List Char) :
    spanMnemonic (character :: rest) =
      if isSmallOrDigit character || (character == '.' && startsSuffix rest) then
        (character :: (spanMnemonic rest).1, (spanMnemonic rest).2)
      else ([], character :: rest) := rfl

theorem spanMnemonic_append (characters : List Char) :
    (spanMnemonic characters).1 ++ (spanMnemonic characters).2 = characters := by
  induction characters with
  | nil => rfl
  | cons character rest induction =>
      rw [spanMnemonic_cons]
      split
      · rw [List.cons_append, induction]
      · rfl

theorem startsSuffix_spanMnemonic {characters : List Char}
    (starts : startsSuffix characters = true) :
    startsSuffix (spanMnemonic characters).1 = true := by
  rcases startsSuffix_iff.mp starts with ⟨first, others, rfl, small⟩
  rw [spanMnemonic_cons, if_pos (by simp [small])]
  exact small

theorem spellsTail_spanMnemonic (characters : List Char) :
    SpellsTail (spanMnemonic characters).1 := by
  induction characters with
  | nil => exact spellsTail_nil
  | cons character rest induction =>
      rw [spanMnemonic_cons]
      split
      · next taken =>
          rw [Bool.or_eq_true, Bool.and_eq_true, beq_iff_eq] at taken
          rw [spellsTail_cons_iff]
          exact ⟨taken.imp_right (And.imp_right startsSuffix_spanMnemonic), induction⟩
      · exact spellsTail_nil

theorem prefix_spanMnemonic {tail characters : List Char} (spells : SpellsTail tail)
    (begins : tail <+: characters) : tail <+: (spanMnemonic characters).1 := by
  induction characters generalizing tail with
  | nil => exact begins
  | cons character rest induction =>
      cases tail with
      | nil => exact List.nil_prefix
      | cons first others =>
          rcases List.cons_prefix_cons.mp begins with ⟨rfl, othersBegin⟩
          rcases spellsTail_cons_iff.mp spells with ⟨starts, othersSpell⟩
          have taken : (isSmallOrDigit first || (first == '.' && startsSuffix rest)) = true := by
            rw [Bool.or_eq_true, Bool.and_eq_true, beq_iff_eq]
            refine starts.imp_right (And.imp_right fun suffix => ?_)
            rcases startsSuffix_iff.mp suffix with ⟨next, more, rfl, small⟩
            rcases othersBegin with ⟨behind, rfl⟩
            exact small
          rw [spanMnemonic_cons, if_pos taken]
          exact List.cons_prefix_cons.mpr ⟨rfl, induction othersSpell othersBegin⟩

theorem takeMnemonic?_cons {letter : Char} (small : isSmall letter = true) (rest : List Char) :
    takeMnemonic? (letter :: rest) =
      some (letter :: (spanMnemonic rest).1, (spanMnemonic rest).2) := if_pos small

theorem isLongestMnemonic_spanMnemonic {letter : Char} (small : isSmall letter = true)
    (rest : List Char) :
    IsLongestMnemonic (letter :: (spanMnemonic rest).1) (spanMnemonic rest).2 := by
  refine ⟨⟨letter, _, rfl, small, spellsTail_spanMnemonic rest⟩, ?_⟩
  rintro other ⟨first, tail, rfl, _, spells⟩ begins
  rw [List.cons_append, spanMnemonic_append] at begins
  have tailBegins := (List.cons_prefix_cons.mp begins).2
  simpa using (prefix_spanMnemonic spells tailBegins).length_le

theorem IsLongestMnemonic.unique {mnemonic rest other others : List Char}
    (longest : IsLongestMnemonic mnemonic rest) (otherLongest : IsLongestMnemonic other others)
    (same : mnemonic ++ rest = other ++ others) : mnemonic = other ∧ rest = others := by
  have notShorter := longest.2 other otherLongest.1 (same ▸ List.prefix_append other others)
  have notLonger := otherLongest.2 mnemonic longest.1 (same ▸ List.prefix_append mnemonic rest)
  exact List.append_inj same (Nat.le_antisymm notLonger notShorter)

theorem IsLongestMnemonic.stops_append {mnemonic rest : List Char}
    (longest : IsLongestMnemonic mnemonic rest) : Text.Stops Text.isGap (mnemonic ++ rest) := by
  rcases longest.1 with ⟨letter, tail, rfl, small, _⟩
  apply Text.stops_cons
  have outside : Text.gaps.all (!isSmall ·) = true := by decide
  apply Bool.eq_false_iff.mpr
  intro gap
  have capital := List.all_eq_true.mp outside letter (List.contains_iff_mem.mp gap)
  rw [small] at capital
  cases capital

theorem takeMnemonic?_eq_some_iff {characters mnemonic rest : List Char} :
    takeMnemonic? characters = some (mnemonic, rest) ↔
      IsLongestMnemonic mnemonic rest ∧ characters = mnemonic ++ rest := by
  constructor
  · intro taken
    cases characters with
    | nil => cases taken
    | cons letter others =>
        by_cases small : isSmall letter = true
        · rw [takeMnemonic?_cons small] at taken
          cases taken
          exact ⟨isLongestMnemonic_spanMnemonic small others,
            by rw [List.cons_append, spanMnemonic_append]⟩
        · rw [takeMnemonic?, if_neg small] at taken
          cases taken
  · rintro ⟨longest, rfl⟩
    rcases longest.1 with ⟨letter, tail, rfl, small, _⟩
    have found := isLongestMnemonic_spanMnemonic small (tail ++ rest)
    have same : letter :: (spanMnemonic (tail ++ rest)).1 ++ (spanMnemonic (tail ++ rest)).2 =
        letter :: tail ++ rest := by
      rw [List.cons_append, spanMnemonic_append, List.cons_append]
    rcases found.unique longest same with ⟨mnemonic, behind⟩
    rw [List.cons_append, takeMnemonic?_cons small, mnemonic, behind]

theorem isMnemonic_of_spellsMnemonic {mnemonic : List Char}
    (spells : SpellsMnemonic mnemonic) : IsMnemonic mnemonic := by
  rcases spells with ⟨letter, tail, rfl, small, stem, suffixes, rfl, stemSmall, suffixesSmall⟩
  refine ⟨by simp, fun character member => ?_⟩
  rw [isMnemonicCharacter, Bool.or_eq_true, beq_iff_eq]
  rcases List.mem_cons.mp member with rfl | member
  · exact .inl (by simp [isSmallOrDigit, small])
  · rcases List.mem_append.mp member with member | member
    · exact .inl (stemSmall character member)
    · rcases List.mem_flatMap.mp member with ⟨suffix, suffixMember, member⟩
      rcases List.mem_cons.mp member with rfl | member
      · exact .inr rfl
      · exact .inl ((suffixesSmall suffix suffixMember).2 character member)

end MipsGloss.Listing
