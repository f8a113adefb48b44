import MipsGloss.Assembly.Statement
import MipsGloss.Proofs.Assembly.Operand

namespace MipsGloss.Statement

/-! A written statement is read back unchanged. The operation has to be one
that reading leaves alone, and the operands have to be separable. -/

/-- The operands as they follow the operation. -/
def behindOperation : List (List Char) → List Char
  | [] => []
  | operand :: others => ' ' :: [',', ' '].intercalate (operand :: others)

theorem toList_text (operation : List Char) (operands : List (List Char)) :
    (text ⟨String.ofList operation, operands.map String.ofList⟩).toList =
      operation ++ behindOperation operands := by
  cases operands with
  | nil => simp [text, behindOperation]
  | cons operand others =>
      simp [text, behindOperation, String.toList_intercalate, Function.comp_def]

theorem splitCharacters_behindOperation {operands : List (List Char)}
    (separable : Operand.Separable operands) :
    Operand.splitCharacters (behindOperation operands) = operands := by
  cases operands with
  | nil => rfl
  | cons operand others =>
      have blank : Operand.isSeparator 0 ' ' = true := by decide
      calc
        Operand.splitCharacters (' ' :: [',', ' '].intercalate (operand :: others))
        _ = Operand.splitCharacters ([',', ' '].intercalate (operand :: others)) :=
            Operand.splitCharacters_cons_of_isSeparator blank _
        _ = operand :: others := Operand.splitCharacters_intercalate separable

/-- The last operand ends what is written. -/
theorem endsInk_intercalate {operands : List (List Char)} (present : operands ≠ [])
    (separable : Operand.Separable operands)
    (ends : ∀ operand ∈ operands, Text.EndsInk operand) :
    [',', ' '].intercalate operands ≠ [] ∧
      Text.EndsInk ([',', ' '].intercalate operands) := by
  induction operands with
  | nil => exact absurd rfl present
  | cons operand others induction =>
      cases others with
      | nil =>
          rw [List.intercalate_singleton]
          exact ⟨separable.1, ends operand (by simp)⟩
      | cons next others =>
          have rest := induction (by simp) separable.2.2.2
            (fun operand member => ends operand (List.mem_cons_of_mem _ member))
          rw [List.intercalate_cons_cons]
          exact ⟨by simp, Text.endsInk_append rest.1 rest.2⟩

theorem endsInk_append_behindOperation {operation : List Char}
    {operands : List (List Char)}
    (ink : ∀ character ∈ operation, Text.isBlank character = false)
    (separable : Operand.Separable operands)
    (ends : ∀ operand ∈ operands, Text.EndsInk operand) :
    Text.EndsInk (operation ++ behindOperation operands) := by
  cases operands with
  | nil =>
      rw [behindOperation, List.append_nil]
      exact fun character last => ink character (List.mem_of_getLast? last)
  | cons operand others =>
      have joined := endsInk_intercalate (by simp) separable ends
      rw [behindOperation, ← List.singleton_append, ← List.append_assoc]
      exact Text.endsInk_append joined.1 joined.2

/-- Writing and reading a statement gives the statement back. -/
theorem ofLine_text {operation : List Char} {operands : List (List Char)}
    (filled : operation ≠ [])
    (ink : ∀ character ∈ operation, Text.isBlank character = false)
    (small : ∀ character ∈ operation, Text.lowerCharacter character = character)
    (separable : Operand.Separable operands)
    (ends : ∀ operand ∈ operands, Text.EndsInk operand) :
    ofLine (text ⟨String.ofList operation, operands.map String.ofList⟩) =
      ⟨String.ofList operation, operands.map String.ofList⟩ := by
  have inked : ∀ character ∈ operation, isInk character = true :=
    fun character member => by simp [isInk, ink character member]
  have starts : Text.StartsInk (operation ++ behindOperation operands) := by
    intro character first
    rw [List.head?_append, List.head?_eq_some_head filled, Option.some_or,
      Option.some.injEq] at first
    exact ink character (first ▸ List.head_mem filled)
  have trimmed := Text.trimCharacters_eq_self starts
    (endsInk_append_behindOperation ink separable ends)
  have spaced : (behindOperation operands).takeWhile isInk = [] ∧
      (behindOperation operands).dropWhile isInk = behindOperation operands := by
    cases operands <;> exact ⟨rfl, rfl⟩
  rw [ofLine, toList_text, trimmed, List.takeWhile_append_of_pos inked, spaced.1,
    List.append_nil, List.dropWhile_append_of_pos inked, spaced.2,
    Text.lower_ofList_eq_self small, Operand.split, String.toList_ofList,
    splitCharacters_behindOperation separable]

end MipsGloss.Statement
