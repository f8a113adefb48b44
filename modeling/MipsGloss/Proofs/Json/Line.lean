import MipsGloss.Proofs.Json.Reader
import MipsGloss.Proofs.Text

namespace MipsGloss.Json

/-! What is written for a value is one of the ways to spell it, and takes one line. So it
can be read back, and nothing else can be read from it. -/

/-! ## Characters on one line -/

/-- No character ends the line or controls anything else. -/
def Visible (characters : List Char) : Prop := ∀ character ∈ characters, 0x20 ≤ character.toNat

theorem Visible.nil : Visible [] := List.forall_mem_nil _

theorem visible_cons {character : Char} {characters : List Char} :
    Visible (character :: characters) ↔ 0x20 ≤ character.toNat ∧ Visible characters := by
  rw [Visible, List.forall_mem_cons, Visible]

theorem visible_append {front back : List Char} :
    Visible (front ++ back) ↔ Visible front ∧ Visible back := by
  rw [Visible, List.forall_mem_append, Visible, Visible]

theorem Visible.not_mem_newline {characters : List Char} (visible : Visible characters) :
    '\n' ∉ characters := fun member => absurd (visible '\n' member) (by decide)

theorem visible_of_isHexDigit {characters : List Char}
    (digits : ∀ character ∈ characters, Text.isHexDigit character = true) :
    Visible characters := by
  intro character member
  rcases Text.isHexDigit_iff.mp (digits character member) with digit | letter | capital <;> omega

/-! ## Numbers -/

theorem Digits.visible {characters : List Char} (digits : Digits characters) :
    Visible characters := by
  intro character member
  have digit := digits.2 character member
  simp only [Text.isDecimalDigit, Bool.and_eq_true, decide_eq_true_eq,
    Text.le_iff_toNat_le] at digit
  exact Nat.le_trans (by decide) digit.1

theorem Whole.visible {characters : List Char} (whole : Whole characters) :
    Visible characters := by
  cases whole with
  | zero => exact visible_cons.mpr ⟨by decide, .nil⟩
  | digits digits => exact digits.visible

theorem Fraction.visible {characters : List Char} (fraction : Fraction characters) :
    Visible characters := by
  cases fraction with
  | absent => exact .nil
  | digits digits => exact visible_cons.mpr ⟨by decide, digits.visible⟩

theorem visible_of_mem_signs {sign : List Char} (signed : sign ∈ [[], ['+'], ['-']]) :
    Visible sign := by
  simp only [List.mem_cons, List.not_mem_nil, or_false] at signed
  rcases signed with rfl | rfl | rfl <;> simp [Visible]

theorem Exponent.visible {characters : List Char} (exponent : Exponent characters) :
    Visible characters := by
  cases exponent with
  | absent => exact .nil
  | digits marked signed digits =>
      refine visible_cons.mpr ⟨?_, visible_append.mpr ⟨visible_of_mem_signs signed, digits.visible⟩⟩
      rcases marked with rfl | rfl <;> decide

theorem Numeral.visible {characters : List Char} (numeral : Numeral characters) :
    Visible characters := by
  rcases numeral with ⟨signed, isWhole, isFraction, isExponent⟩
  have signs : [[], ['-']] ⊆ [[], ['+'], ['-']] := by decide
  simp only [visible_append]
  exact ⟨visible_of_mem_signs (signs signed), isWhole.visible, isFraction.visible,
    isExponent.visible⟩

/-! ## Strings -/

theorem visible_escape (character : Char) : Visible (escape character) := by
  rw [escape]
  cases written : shortEscapes.lookup character with
  | some letter =>
      have letters : ∀ pair ∈ shortEscapes, 0x20 ≤ pair.2.toNat := by decide
      rcases List.lookup_eq_some_iff.mp written with ⟨front, back, split, _⟩
      have visible := letters (character, letter) (by simp [split])
      simpa [visible_cons, Visible.nil] using visible
  | none =>
      dsimp only
      split
      next needed =>
        have digits := (codeDigits_of_needsCode needed).1.2
        have visible := visible_of_isHexDigit (List.all_eq_true.mp digits)
        simpa [visible_cons] using visible
      next direct =>
        simp only [needsCode, Bool.or_eq_true, decide_eq_true_eq, not_or] at direct
        exact visible_cons.mpr ⟨Nat.le_of_not_lt direct.1, .nil⟩

theorem visible_quoted (text : String) : Visible (quoted text) := by
  have inner : Visible (text.toList.flatMap escape) := by
    intro character member
    rcases List.mem_flatMap.mp member with ⟨original, _, escaped⟩
    exact visible_escape original character escaped
  simpa [quoted, visible_cons, visible_append, Visible.nil] using inner

/-! ## Values

The two mutual recursions below follow the one that writes a value. -/

namespace Value

mutual

/-- The numbers in a value are spelled as numbers. All else can be spelled anyway. -/
def Spellable : Value → Prop
  | .null | .boolean _ | .string _ => True
  | .number spelling => Numeral spelling.toList
  | .array items => SpellableItems items
  | .object members => SpellableMembers members

def SpellableItems : List Value → Prop
  | [] => True
  | item :: rest => item.Spellable ∧ SpellableItems rest

def SpellableMembers : List (String × Value) → Prop
  | [] => True
  | (_, value) :: rest => value.Spellable ∧ SpellableMembers rest

end

mutual

theorem spells_characters : ∀ value : Value, value.Spellable → Spells value value.characters
  | .null, _ => .null
  | .boolean true, _ => .truth
  | .boolean false, _ => .falsehood
  | .number spelling, numeral => by
      have spelled := Spells.number numeral
      rwa [String.ofList_toList] at spelled
  | .string text, _ => spells_quoted text
  | .array [], _ => @Spells.emptyArray [] .nil
  | .array (item :: rest), spellable =>
      .array (listed_itemCharacters (item :: rest) nofun spellable)
  | .object [], _ => @Spells.emptyObject [] .nil
  | .object (member :: rest), spellable =>
      .object (listed_memberCharacters (member :: rest) nofun spellable)

theorem listed_itemCharacters : ∀ items : List Value, items ≠ [] → SpellableItems items →
    Listed SpellsSpaced items (itemCharacters items)
  | [], filled, _ => absurd rfl filled
  | [item], _, spellable => .last (item.spells_characters spellable.1).spaced
  | item :: next :: rest, _, spellable =>
      .more (item.spells_characters spellable.1).spaced
        (listed_itemCharacters (next :: rest) nofun spellable.2)

theorem listed_memberCharacters : ∀ members : List (String × Value), members ≠ [] →
    SpellableMembers members → Listed SpellsMember members (memberCharacters members)
  | [], filled, _ => absurd rfl filled
  | [(name, value)], _, spellable => .last ((value.spells_characters spellable.1).member name)
  | (name, value) :: next :: rest, _, spellable => by
      have listed := Listed.more ((value.spells_characters spellable.1).member name)
        (listed_memberCharacters (next :: rest) nofun spellable.2)
      rwa [List.append_assoc, List.cons_append] at listed

end

mutual

theorem visible_characters : ∀ value : Value, value.Spellable → Visible value.characters
  | .null, _ | .boolean true, _ | .boolean false, _ => by simp [characters, Visible]
  | .number _, numeral => numeral.visible
  | .string text, _ => visible_quoted text
  | .array items, spellable => by
      simpa [characters, visible_cons, visible_append, Visible.nil] using
        visible_itemCharacters items spellable
  | .object members, spellable => by
      simpa [characters, visible_cons, visible_append, Visible.nil] using
        visible_memberCharacters members spellable

theorem visible_itemCharacters : ∀ items : List Value, SpellableItems items →
    Visible (itemCharacters items)
  | [], _ => .nil
  | [item], spellable => item.visible_characters spellable.1
  | item :: next :: rest, spellable => by
      simpa [itemCharacters, visible_cons, visible_append] using
        And.intro (item.visible_characters spellable.1)
          (visible_itemCharacters (next :: rest) spellable.2)

theorem visible_memberCharacters : ∀ members : List (String × Value), SpellableMembers members →
    Visible (memberCharacters members)
  | [], _ => .nil
  | [(name, value)], spellable => by
      simpa [memberCharacters, visible_cons, visible_append] using
        And.intro (visible_quoted name) (value.visible_characters spellable.1)
  | (name, value) :: next :: rest, spellable => by
      simpa [memberCharacters, visible_cons, visible_append] using
        And.intro (visible_quoted name) (And.intro (value.visible_characters spellable.1)
          (visible_memberCharacters (next :: rest) spellable.2))

end

/-! ## Lines -/

theorem toList_line (value : Value) : value.line.toList = value.characters ++ ['\n'] := by
  rw [line, String.toList_ofList]

theorem space_newline : Space ['\n'] := by
  simp [Space, isSpace]

theorem readAny_line {value : Value} (spellable : value.Spellable) :
    readAny value.line = some (value, ['\n']) := by
  have whole : value.line.toList = [] ++ (value.characters ++ ['\n']) := value.toList_line
  exact readAny_of_spells whole .nil (value.spells_characters spellable) space_newline

/-- The line of a value spells the value and no other one. -/
theorem spellsSpaced_line_iff {value other : Value} (spellable : value.Spellable) :
    SpellsSpaced other value.line.toList ↔ other = value := by
  constructor
  · intro spelled
    rcases exists_readAny spelled with ⟨rest, found⟩
    rw [readAny_line spellable] at found
    simp_all
  · rintro rfl
    rw [toList_line, ← List.nil_append (other.characters ++ ['\n'])]
    exact .spaced .nil (other.spells_characters spellable) space_newline

end Value

end MipsGloss.Json
