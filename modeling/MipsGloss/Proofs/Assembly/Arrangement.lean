import MipsGloss.Proofs.Assembly.Schema
import MipsGloss.Proofs.Assembly.Statement

namespace MipsGloss

/-! Arrangements of a line. A statement leaves open how it is written: the blanks
around the line, the letter case of the operation, and the separators ahead of its
operands. Reading does not see any of it. -/

/-! ## Letter case -/

namespace Text

theorem toLower_eq_self {character : Char}
    (small : ¬ (0x41 ≤ character.toNat ∧ character.toNat ≤ 0x5a)) :
    character.toLower = character := by
  unfold Char.toLower
  rw [dif_neg]
  exact fun capital => small ⟨UInt32.le_iff_toNat_le.mp capital.1,
    UInt32.le_iff_toNat_le.mp capital.2⟩

/-- The case of an ASCII letter changes neither its small form nor that it is ink. -/
theorem lowerCharacter_toLower (character : Char) :
    lowerCharacter character.toLower = lowerCharacter character ∧
      isBlank character.toLower = isBlank character := by
  by_cases capital : 0x41 ≤ character.toNat ∧ character.toNat ≤ 0x5a
  · have table : ∀ code < 0x5b, 0x41 ≤ code →
        lowerCharacter (Char.ofNat code).toLower = lowerCharacter (Char.ofNat code) ∧
          isBlank (Char.ofNat code).toLower = isBlank (Char.ofNat code) := by
      decide +kernel
    have entry := table character.toNat (by omega) capital.1
    rw [Char.ofNat_toNat] at entry
    exact entry
  · rw [toLower_eq_self capital]
    exact ⟨rfl, rfl⟩

/-- Two spellings that differ in letter case have the same small letters. -/
theorem map_lowerCharacter_of_map_toLower {left right : List Char}
    (same : left.map Char.toLower = right.map Char.toLower) :
    left.map lowerCharacter = right.map lowerCharacter := by
  have through (characters : List Char) :
      (characters.map Char.toLower).map lowerCharacter = characters.map lowerCharacter := by
    rw [List.map_map]
    exact List.map_congr_left fun character _ => (lowerCharacter_toLower character).1
  rw [← through left, same, through right]

theorem blankless_of_map_toLower {left right : List Char}
    (same : left.map Char.toLower = right.map Char.toLower)
    (blankless : ∀ character ∈ right, isBlank character = false) :
    ∀ character ∈ left, isBlank character = false := by
  intro character member
  have lowered : character.toLower ∈ right.map Char.toLower :=
    same ▸ List.mem_map_of_mem member
  rcases List.mem_map.mp lowered with ⟨other, otherMember, sameLetter⟩
  rw [← (lowerCharacter_toLower character).2, ← sameLetter, (lowerCharacter_toLower other).2]
  exact blankless other otherMember

end Text

/-! ## Separators -/

namespace Operand

/-- Commas and blanks, as they can stand ahead of an operand. -/
def Separates (separator : List Char) : Prop :=
  separator ≠ [] ∧ ∀ character ∈ separator, character = ',' ∨ Text.isBlank character = true

instance : DecidablePred Separates := fun separator =>
  decidable_of_iff
    (separator ≠ [] ∧ separator.all (fun character => character == ',' || Text.isBlank character))
    (by simp [Separates])

/-- Operands, each behind its separator. -/
def weave (separators operands : List (List Char)) : List Char :=
  (List.zipWith (· ++ ·) separators operands).flatten

theorem weave_cons (separator operand : List Char) (separators operands : List (List Char)) :
    weave (separator :: separators) (operand :: operands) =
      separator ++ (operand ++ weave separators operands) := by
  rw [weave, List.zipWith_cons_cons, List.flatten_cons, List.append_assoc, weave]

theorem isSeparator_zero {character : Char}
    (separates : character = ',' ∨ Text.isBlank character = true) :
    isSeparator 0 character = true := by
  rcases separates with rfl | blank
  · decide
  · simp [isSeparator, blank]

theorem splitCharacters_append_of_separators {separator : List Char}
    (separates : ∀ character ∈ separator, character = ',' ∨ Text.isBlank character = true)
    (rest : List Char) : splitCharacters (separator ++ rest) = splitCharacters rest := by
  induction separator with
  | nil => rfl
  | cons character others induction =>
      rw [List.cons_append, splitCharacters_cons_of_isSeparator
        (isSeparator_zero (separates character List.mem_cons_self))]
      exact induction fun other member => separates other (List.mem_cons_of_mem _ member)

/-- A separator ends the operand ahead of it, where this one closes its parentheses. -/
theorem scan_append_of_separates {separator : List Char} (separates : Separates separator)
    (rest : List Char) : scan 0 (separator ++ rest) = ([], splitCharacters rest) := by
  rcases separates with ⟨filled, separates⟩
  cases separator with
  | nil => exact absurd rfl filled
  | cons character others =>
      have outside := isSeparator_zero (separates character List.mem_cons_self)
      rw [List.cons_append, scan_cons_of_isSeparator outside,
        splitCharacters_append_of_separators
          fun other member => separates other (List.mem_cons_of_mem _ member)]

/-- Operands are found again behind any separators. -/
theorem splitCharacters_weave {separators operands : List (List Char)}
    (count : separators.length = operands.length)
    (separate : ∀ separator ∈ separators, Separates separator) (separable : Separable operands) :
    splitCharacters (weave separators operands) = operands := by
  induction operands generalizing separators with
  | nil =>
      rw [List.length_eq_zero_iff.mp count]
      rfl
  | cons operand others induction =>
      rcases separable with ⟨filled, unbroken, closes, separable⟩
      cases separators with
      | nil => cases count
      | cons separator separators =>
          have separates := separate separator List.mem_cons_self
          have later := fun other member => separate other (List.mem_cons_of_mem _ member)
          have found := induction (Nat.succ.inj count) later separable
          rw [weave_cons, splitCharacters_append_of_separators separates.2, splitCharacters_eq,
            scan_append unbroken]
          cases others with
          | nil =>
              rw [List.length_eq_zero_iff.mp (Nat.succ.inj count), weave, List.zipWith_nil_left,
                List.flatten_nil, scan, List.append_nil, prepend_of_ne_nil filled]
          | cons next others =>
              cases separators with
              | nil => cases count
              | cons following separators =>
                  have nextSeparates := later following List.mem_cons_self
                  rw [closes (by simp)]
                  rw [weave_cons, splitCharacters_append_of_separators nextSeparates.2] at found
                  rw [weave_cons, scan_append_of_separates nextSeparates, found, List.append_nil,
                    prepend_of_ne_nil filled]

theorem endsInk_weave {separators operands : List (List Char)} (present : operands ≠ [])
    (count : separators.length = operands.length) (separable : Separable operands)
    (ends : ∀ operand ∈ operands, Text.EndsInk operand) :
    weave separators operands ≠ [] ∧ Text.EndsInk (weave separators operands) := by
  induction operands generalizing separators with
  | nil => exact absurd rfl present
  | cons operand others induction =>
      cases separators with
      | nil => cases count
      | cons separator separators =>
          rcases separable with ⟨filled, _, _, separable⟩
          rw [weave_cons]
          refine ⟨by simp [filled], ?_⟩
          by_cases last : others = []
          · subst last
            rw [List.length_eq_zero_iff.mp (Nat.succ.inj count), weave, List.zipWith_nil_left,
              List.flatten_nil, List.append_nil]
            exact Text.endsInk_append filled (ends operand List.mem_cons_self)
          · rcases induction last (Nat.succ.inj count) separable
              fun other member => ends other (List.mem_cons_of_mem _ member) with
              ⟨woven, wovenEnds⟩
            rw [← List.append_assoc]
            exact Text.endsInk_append woven wovenEnds

end Operand

/-! ## Lines -/

namespace Statement

/-- What is known of the operation and the operands of a line, as characters. -/
structure Parts (line : String) (token : List Char) (operands : List (List Char)) : Prop where
  statement : ofLine line =
    ⟨String.ofList (token.map Text.lowerCharacter), operands.map String.ofList⟩
  ink : ∀ character ∈ token, Text.isBlank character = false
  bare : token = [] → operands = []
  separable : Operand.Separable operands
  ends : ∀ operand ∈ operands, Text.EndsInk operand

theorem parts_ofLine (line : String) :
    Parts line (firstToken line).toList ((ofLine line).operands.map String.toList) := by
  let characters := Text.trimCharacters line.toList
  have token : (firstToken line).toList = characters.takeWhile isInk := String.toList_ofList
  have operands : (ofLine line).operands.map String.toList =
      Operand.splitCharacters (characters.dropWhile isInk) := by
    rw [ofLine, Operand.split, List.map_map, String.toList_ofList]
    exact List.map_id'' (fun _ => String.toList_ofList) _
  have cut : characters.dropWhile isInk <:+ characters := List.dropWhile_suffix isInk
  rw [token, operands]
  constructor
  · rw [ofLine, Text.lower, String.toList_ofList, Operand.split, String.toList_ofList]
  · intro character member
    have inked : isInk character = true := List.mem_takeWhile_imp member
    simpa [isInk] using inked
  · intro none
    cases first : characters with
    | nil => rfl
    | cons head tail =>
        have ink := Text.startsInk_trimCharacters line.toList head (by
          change characters.head? = some head
          rw [first]
          rfl)
        rw [first, List.takeWhile_cons_of_pos (by simp [isInk, ink])] at none
        cases none
  · exact Operand.separable_splitCharacters _
  · intro operand member
    refine Operand.endsInk_of_mem_splitCharacters ?_ member
    intro last found
    apply Text.endsInk_trimCharacters line.toList last
    rcases cut with ⟨front, joined⟩
    change characters.getLast? = some last
    rw [← joined, List.getLast?_append, found, Option.some_or]

/-- A way to write an operation and operands on a line. -/
structure Arrangement (token : List Char) (operands : List (List Char)) where
  before : List Char
  name : List Char
  separators : List (List Char)
  after : List Char
  blankBefore : ∀ character ∈ before, Text.isBlank character = true
  /-- The operation may be written in any letter case. -/
  respelled : name.map Char.toLower = token.map Char.toLower
  count : separators.length = operands.length
  separate : ∀ separator ∈ separators, Operand.Separates separator
  /-- The operation ends at a blank. -/
  opened : ∀ character, separators.flatten.head? = some character →
    Text.isBlank character = true
  blankAfter : ∀ character ∈ after, Text.isBlank character = true

namespace Arrangement

variable {token : List Char} {operands : List (List Char)}

def content (arrangement : Arrangement token operands) : List Char :=
  arrangement.name ++ Operand.weave arrangement.separators operands

def text (arrangement : Arrangement token operands) : String :=
  String.ofList (arrangement.before ++ arrangement.content ++ arrangement.after)

/-- What is behind the operation begins with a blank, if there is anything. -/
theorem weave_eq_nil_or_blank (arrangement : Arrangement token operands) :
    Operand.weave arrangement.separators operands = [] ∨
      ∃ blank rest, Operand.weave arrangement.separators operands = blank :: rest ∧
        Text.isBlank blank = true := by
  rcases arrangement with ⟨_, _, separators, _, _, _, count, separate, opened, _⟩
  cases separators with
  | nil => exact .inl rfl
  | cons separator separators =>
      cases operands with
      | nil => cases count
      | cons operand others =>
          have separates := separate separator List.mem_cons_self
          cases separator with
          | nil => exact absurd rfl separates.1
          | cons blank rest =>
              refine .inr ⟨blank, _, Operand.weave_cons _ _ _ _, opened blank ?_⟩
              rw [List.flatten_cons, List.cons_append, List.head?_cons]

theorem content_ends {line : String} (parts : Parts line token operands)
    (arrangement : Arrangement token operands) : Text.EndsInk arrangement.content := by
  rw [content]
  by_cases present : operands = []
  · subst present
    rw [Operand.weave, List.zipWith_nil_right, List.flatten_nil, List.append_nil]
    exact fun character last =>
      Text.blankless_of_map_toLower arrangement.respelled parts.ink character
        (List.mem_of_getLast? last)
  · rcases Operand.endsInk_weave present arrangement.count parts.separable parts.ends with
      ⟨filled, ends⟩
    exact Text.endsInk_append filled ends

theorem content_starts {line : String} (parts : Parts line token operands)
    (arrangement : Arrangement token operands) : Text.StartsInk arrangement.content := by
  have ink := Text.blankless_of_map_toLower arrangement.respelled parts.ink
  rw [content]
  cases name : arrangement.name with
  | nil =>
      have empty : token = [] := by
        have same := arrangement.respelled
        rw [name, List.map_nil] at same
        exact List.map_eq_nil_iff.mp same.symm
      have bare := parts.bare empty
      subst bare
      rw [Operand.weave, List.zipWith_nil_right]
      exact fun _ first => (nomatch first)
  | cons head tail =>
      intro character first
      rw [List.cons_append, List.head?_cons, Option.some.injEq] at first
      exact ink character (by rw [name, first]; exact List.mem_cons_self)

theorem ofLine_text {line : String} (parts : Parts line token operands)
    (arrangement : Arrangement token operands) : ofLine arrangement.text = ofLine line := by
  have ink := Text.blankless_of_map_toLower arrangement.respelled parts.ink
  have inked : ∀ character ∈ arrangement.name, isInk character = true :=
    fun character member => by simp [isInk, ink character member]
  have trimmed : Text.trimCharacters arrangement.text.toList = arrangement.content := by
    rw [text, String.toList_ofList]
    exact Text.trimCharacters_between arrangement.blankBefore arrangement.blankAfter
      (content_starts parts arrangement) (content_ends parts arrangement)
  have parted :
      (Operand.weave arrangement.separators operands).takeWhile isInk = [] ∧
        (Operand.weave arrangement.separators operands).dropWhile isInk =
          Operand.weave arrangement.separators operands := by
    rcases arrangement.weave_eq_nil_or_blank with empty | ⟨blank, rest, spelled, isBlank⟩
    · rw [empty]
      exact ⟨rfl, rfl⟩
    · rw [spelled, List.takeWhile_cons_of_neg (by simp [isInk, isBlank]),
        List.dropWhile_cons_of_neg (by simp [isInk, isBlank])]
      exact ⟨rfl, rfl⟩
  rw [parts.statement, ofLine, trimmed, content, List.takeWhile_append_of_pos inked, parted.1,
    List.append_nil, List.dropWhile_append_of_pos inked, parted.2, Operand.split,
    String.toList_ofList, Operand.splitCharacters_weave arrangement.count arrangement.separate
      parts.separable, Text.lower, String.toList_ofList,
    Text.map_lowerCharacter_of_map_toLower arrangement.respelled]

end Arrangement

/-- However the parts of a line are arranged, the same statement is read and the same
gloss or complaint is given. No operand ends in a blank that trimming could take. -/
theorem ofLine_arranged (line : String)
    (arrangement : Arrangement (firstToken line).toList
      ((ofLine line).operands.map String.toList)) :
    ofLine arrangement.text = ofLine line ∧
      (∀ functs, Gloss.ofLine functs arrangement.text = Gloss.ofLine functs line) ∧
      ∀ operand ∈ (ofLine line).operands, Text.EndsInk operand.toList := by
  have parts := parts_ofLine line
  have same := Arrangement.ofLine_text parts arrangement
  refine ⟨same, ?_, ?_⟩
  · intro functs
    rw [Gloss.ofLine, same, Gloss.ofLine]
  · intro operand member
    exact parts.ends operand.toList (List.mem_map_of_mem member)

/-- A line whose last operand leaves a parenthesis open, arranged anew with blanks of
several kinds, two commas in a row and a capital. -/
def openArrangement : Arrangement (firstToken "lW $t0, 4(a, b").toList
    ((ofLine "lW $t0, 4(a, b").operands.map String.toList) where
  before := ['\u00a0']
  name := ['L', 'w']
  separators := [['\t', ',', ','], ['\u2003', ',', ' ']]
  after := ['\n', ' ']
  blankBefore := List.all_eq_true.mp (by decide)
  respelled := by decide +kernel
  count := by decide +kernel
  separate := by decide +kernel
  opened := by
    intro character first
    cases first
    decide
  blankAfter := List.all_eq_true.mp (by decide)

theorem ofLine_openArrangement :
    openArrangement.text = "\u00a0Lw\t,,$t0\u2003, 4(a, b\n " ∧
      ofLine openArrangement.text = ofLine "lW $t0, 4(a, b" ∧
      (∀ functs, Gloss.ofLine functs openArrangement.text =
        Gloss.ofLine functs "lW $t0, 4(a, b") ∧
      ∀ operand ∈ (ofLine "lW $t0, 4(a, b").operands, Text.EndsInk operand.toList :=
  ⟨by decide +kernel, ofLine_arranged _ openArrangement⟩

end Statement

end MipsGloss
