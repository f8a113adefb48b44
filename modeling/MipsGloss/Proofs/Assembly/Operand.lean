import MipsGloss.Assembly.Operand
import MipsGloss.Proofs.Text

namespace MipsGloss.Operand

/-! An operand is unbroken: no separator stands in it, where the depth is
counted from its own start. What stands behind an operand can be told from it
only when the operand closes its parentheses. -/

def depthBehind (depth : Nat) (characters : List Char) : Nat :=
  characters.foldl depthAfter depth

def Unbroken (depth : Nat) : List Char → Prop
  | [] => True
  | character :: rest =>
      isSeparator depth character = false ∧
        Unbroken (depthAfter depth character) rest

/-- Operands that are found again when separators are put between them. -/
def Separable : List (List Char) → Prop
  | [] => True
  | operand :: others =>
      operand ≠ [] ∧ Unbroken 0 operand ∧
        (others ≠ [] → depthBehind 0 operand = 0) ∧ Separable others

theorem depth_eq_zero_of_isSeparator {depth : Nat} {character : Char}
    (separates : isSeparator depth character = true) : depth = 0 := by
  rw [isSeparator, Bool.and_eq_true, beq_iff_eq] at separates
  exact separates.1

/-- A blank that belongs to an operand stands inside parentheses. -/
theorem depthAfter_ne_zero_of_isBlank {depth : Nat} {character : Char}
    (kept : isSeparator depth character = false)
    (blank : Text.isBlank character = true) :
    depthAfter depth character ≠ 0 := by
  have inside : depth ≠ 0 := by
    intro outside
    simp [isSeparator, outside, blank] at kept
  have noOpening : character ≠ '(' := by
    intro opening
    rw [opening] at blank
    revert blank
    decide
  have noClosing : character ≠ ')' := by
    intro closing
    rw [closing] at blank
    revert blank
    decide
  rw [depthAfter, if_neg noOpening, if_neg noClosing]
  exact inside

/-! ## Scanning -/

theorem splitCharacters_eq (characters : List Char) :
    splitCharacters characters =
      prepend (scan 0 characters).1 (scan 0 characters).2 := rfl

theorem prepend_of_ne_nil {operand : List Char} (filled : operand ≠ [])
    (others : List (List Char)) : prepend operand others = operand :: others := by
  simp [prepend, filled]

theorem mem_prepend {operand found : List Char} {others : List (List Char)}
    (member : found ∈ prepend operand others) : found = operand ∨ found ∈ others := by
  rw [prepend] at member
  split at member
  · exact .inr member
  · exact List.mem_cons.mp member

theorem scan_cons_of_isSeparator {depth : Nat} {character : Char}
    (separates : isSeparator depth character = true) (rest : List Char) :
    scan depth (character :: rest) = ([], splitCharacters rest) := by
  rw [scan, if_pos separates, depth_eq_zero_of_isSeparator separates, splitCharacters]

theorem scan_cons_of_not_isSeparator {depth : Nat} {character : Char}
    (kept : isSeparator depth character = false) (rest : List Char) :
    scan depth (character :: rest) =
      (character :: (scan (depthAfter depth character) rest).1,
        (scan (depthAfter depth character) rest).2) := by
  rw [scan, if_neg (by simp [kept])]

theorem splitCharacters_cons_of_isSeparator {character : Char}
    (separates : isSeparator 0 character = true) (rest : List Char) :
    splitCharacters (character :: rest) = splitCharacters rest := by
  rw [splitCharacters, scan_cons_of_isSeparator separates]
  rfl

theorem scan_append {depth : Nat} {operand : List Char}
    (unbroken : Unbroken depth operand) (rest : List Char) :
    scan depth (operand ++ rest) =
      (operand ++ (scan (depthBehind depth operand) rest).1,
        (scan (depthBehind depth operand) rest).2) := by
  induction operand generalizing depth with
  | nil => rfl
  | cons character tail induction =>
      rw [List.cons_append, scan_cons_of_not_isSeparator unbroken.1,
        induction unbroken.2]
      rfl

/-- The operand under way goes on unbroken, and if others follow, it closes. -/
theorem scan_separable (depth : Nat) (characters : List Char) :
    Unbroken depth (scan depth characters).1 ∧
      ((scan depth characters).2 ≠ [] →
        depthBehind depth (scan depth characters).1 = 0) ∧
      Separable (scan depth characters).2 := by
  induction characters generalizing depth with
  | nil => exact ⟨trivial, fun filled => absurd rfl filled, trivial⟩
  | cons character rest induction =>
      cases separates : isSeparator depth character with
      | true =>
          have outside := depth_eq_zero_of_isSeparator separates
          rcases induction 0 with ⟨unbroken, closes, separable⟩
          rw [scan_cons_of_isSeparator separates]
          refine ⟨trivial, fun _ => outside, ?_⟩
          rw [splitCharacters_eq]
          by_cases filled : (scan 0 rest).1 = []
          · rw [filled]
            exact separable
          · rw [prepend_of_ne_nil filled]
            exact ⟨filled, unbroken, closes, separable⟩
      | false =>
          rcases induction (depthAfter depth character) with
            ⟨unbroken, closes, separable⟩
          rw [scan_cons_of_not_isSeparator separates]
          exact ⟨⟨separates, unbroken⟩, closes, separable⟩

theorem separable_splitCharacters (characters : List Char) :
    Separable (splitCharacters characters) := by
  have spaced := (scan_separable 0 (' ' :: characters)).2.2
  rw [scan_cons_of_isSeparator (by decide)] at spaced
  exact spaced

theorem Separable.ne_nil {operands : List (List Char)} (separable : Separable operands) :
    ∀ operand ∈ operands, operand ≠ [] := by
  induction operands with
  | nil => exact fun _ member => (nomatch member)
  | cons first others induction =>
      intro operand member
      rcases List.mem_cons.mp member with rfl | member
      · exact separable.1
      · exact induction separable.2.2.2 operand member

theorem ne_empty_of_mem_split {text operand : String} (member : operand ∈ split text) :
    operand ≠ "" := by
  rcases List.mem_map.mp member with ⟨characters, found, rfl⟩
  intro empty
  exact (separable_splitCharacters text.toList).ne_nil characters found
    (String.ofList_eq_empty_iff.mp empty)

/-- Operands are found again behind commas. -/
theorem splitCharacters_intercalate {operands : List (List Char)}
    (separable : Separable operands) :
    splitCharacters ([',', ' '].intercalate operands) = operands := by
  induction operands with
  | nil => rfl
  | cons operand others induction =>
      rcases separable with ⟨filled, unbroken, closes, separable⟩
      cases others with
      | nil =>
          have scanned := scan_append unbroken []
          rw [List.append_nil] at scanned
          rw [List.intercalate_singleton, splitCharacters_eq, scanned, scan,
            List.append_nil, prepend_of_ne_nil filled]
      | cons next others =>
          have outside : depthBehind 0 operand = 0 := closes (by simp)
          rw [List.intercalate_cons_cons, List.append_assoc, splitCharacters_eq,
            scan_append unbroken, outside, List.cons_append,
            scan_cons_of_isSeparator (by decide), List.singleton_append,
            splitCharacters_cons_of_isSeparator (by decide), induction separable,
            List.append_nil, prepend_of_ne_nil filled]

/-! ## Characters of operands -/

theorem flatten_prepend (operand : List Char) (others : List (List Char)) :
    (prepend operand others).flatten = operand ++ others.flatten := by
  cases operand <;> rfl

theorem mem_scan_iff {character : Char} (kept : ∀ depth, isSeparator depth character = false)
    (depth : Nat) (characters : List Char) :
    character ∈ (scan depth characters).1 ++ (scan depth characters).2.flatten ↔
      character ∈ characters := by
  induction characters generalizing depth with
  | nil => rfl
  | cons head rest induction =>
      cases separates : isSeparator depth head with
      | true =>
          have different : character ≠ head := by
            rintro rfl
            rw [kept depth] at separates
            cases separates
          rw [scan_cons_of_isSeparator separates, List.nil_append, splitCharacters_eq,
            flatten_prepend, induction 0, List.mem_cons, or_iff_right different]
      | false =>
          rw [scan_cons_of_not_isSeparator separates, List.cons_append, List.mem_cons,
            List.mem_cons, induction]

/-- A character that never separates is found in the operands when it is in the text. -/
theorem mem_flatten_splitCharacters_iff {character : Char}
    (kept : ∀ depth, isSeparator depth character = false) (characters : List Char) :
    character ∈ (splitCharacters characters).flatten ↔ character ∈ characters := by
  rw [splitCharacters_eq, flatten_prepend, mem_scan_iff kept]

/-! ## Ends of operands -/

theorem endsInk_of_endsInk_cons {character : Char} {rest : List Char}
    (ends : Text.EndsInk (character :: rest)) : Text.EndsInk rest := by
  intro last found
  cases rest with
  | nil => cases found
  | cons head tail =>
      rw [← List.getLast?_cons_cons (a := character)] at found
      exact ends last found

/-- Where characters end with ink, so does every operand in them. An operand that
is broken off closes its parentheses, so that its last character is no blank. -/
theorem endsInk_scan (depth : Nat) {characters : List Char}
    (ends : Text.EndsInk characters) :
    Text.EndsInk (scan depth characters).1 ∧
      ∀ operand ∈ (scan depth characters).2, Text.EndsInk operand := by
  induction characters generalizing depth with
  | nil => exact ⟨fun _ found => (nomatch found), fun _ member => (nomatch member)⟩
  | cons character rest induction =>
      have restEnds := endsInk_of_endsInk_cons ends
      cases separates : isSeparator depth character with
      | true =>
          rcases induction 0 restEnds with ⟨firstEnds, othersEnd⟩
          rw [scan_cons_of_isSeparator separates]
          refine ⟨fun _ found => (nomatch found), fun operand member => ?_⟩
          rcases mem_prepend member with rfl | member
          · exact firstEnds
          · exact othersEnd operand member
      | false =>
          rcases induction (depthAfter depth character) restEnds with
            ⟨firstEnds, othersEnd⟩
          rw [scan_cons_of_not_isSeparator separates]
          refine ⟨?_, othersEnd⟩
          intro last found
          cases first : (scan (depthAfter depth character) rest).1 with
          | cons head tail =>
              rw [first] at firstEnds found
              rw [List.getLast?_cons_cons] at found
              exact firstEnds last found
          | nil =>
              rw [first, List.getLast?_singleton, Option.some.injEq] at found
              rw [← found]
              cases rest with
              | nil => exact ends character rfl
              | cons head tail =>
                  have broken : isSeparator (depthAfter depth character) head = true := by
                    cases kept : isSeparator (depthAfter depth character) head with
                    | true => rfl
                    | false =>
                        rw [scan_cons_of_not_isSeparator kept] at first
                        cases first
                  have outside := depth_eq_zero_of_isSeparator broken
                  apply Bool.eq_false_iff.mpr
                  intro blank
                  exact depthAfter_ne_zero_of_isBlank separates blank outside

theorem endsInk_of_mem_splitCharacters {characters operand : List Char}
    (ends : Text.EndsInk characters) (member : operand ∈ splitCharacters characters) :
    Text.EndsInk operand := by
  rcases endsInk_scan 0 ends with ⟨firstEnds, othersEnd⟩
  rcases mem_prepend member with rfl | member
  · exact firstEnds
  · exact othersEnd operand member

end MipsGloss.Operand

namespace MipsGloss.Address

/-! ## Addresses -/

/-- An address that is read out of an operand is the whole of it. -/
theorem toList_of_ofOperand {operand : String} {address : Address}
    (parsed : ofOperand operand = .ok address) :
    operand.toList = address.offset.toList ++ '(' :: (address.base.toList ++ [')']) := by
  let isOffset : Char → Bool := (· != '(')
  have whole : operand.toList.takeWhile isOffset ++ operand.toList.dropWhile isOffset =
      operand.toList := List.takeWhile_append_dropWhile
  have stopped := List.head?_dropWhile_not isOffset operand.toList
  cases found : operand.toList.dropWhile isOffset with
  | nil => simp only [ofOperand, found, isOffset, reduceCtorEq] at parsed
  | cons opening inner =>
      rw [found] at stopped whole
      have isOpening : opening = '(' := by simpa [isOffset] using stopped
      simp only [ofOperand, found, isOffset] at parsed
      split at parsed
      · cases parsed
      next closes =>
      split at parsed
      · cases parsed
      split at parsed
      · cases parsed
      next sound =>
      cases parsed
      have filled : inner ≠ [] := by
        rintro rfl
        exact sound (.inl rfl)
      have last : inner.getLast filled = ')' := by
        rw [← whole, List.getLast?_append, List.getLast?_cons, Option.some_or,
          not_not, Option.some.injEq] at closes
        rw [← closes, List.getLast?_eq_some_getLast filled, Option.getD_some]
      rw [isOpening] at whole
      rw [String.toList_ofList, String.toList_ofList, ← last,
        List.dropLast_concat_getLast filled]
      exact whole.symm

/-- Only the second of the operands is looked at. -/
theorem ofOperands_eq_ok {operands : List String} {address : Address}
    (parsed : ofOperands operands = .ok address) :
    ∃ operand, operands[1]? = some operand ∧ ofOperand operand = .ok address := by
  cases operands with
  | nil => cases parsed
  | cons first rest =>
      cases rest with
      | nil => cases parsed
      | cons second rest => exact ⟨second, rfl, parsed⟩

end MipsGloss.Address
