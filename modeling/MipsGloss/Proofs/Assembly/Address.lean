import MipsGloss.Assembly.Funct
import MipsGloss.Proofs.Assembly.Operand
import MipsGloss.Proofs.Assembly.Template
import MipsGloss.Text.Lines

namespace MipsGloss

/-! Memory operations and the addresses that they take. An operand is an address exactly
where the grammar says so, its parts are kept as they are written, and an operand that is
no address is refused for the first reason that applies. -/

/-- Two marks in one text stand in some order, or are the same mark. -/
theorem Text.order_of_append_cons_eq {front back other rest : List Char} {mark next : Char}
    (same : front ++ mark :: back = other ++ next :: rest) :
    mark ∈ other ∨ next ∈ front ∨ (front = other ∧ mark = next ∧ back = rest) := by
  rcases List.append_eq_append_iff.mp same with ⟨between, rfl, shape⟩ | ⟨between, rfl, shape⟩
  · cases between with
    | nil =>
        rw [List.nil_append, List.cons.injEq] at shape
        exact .inr (.inr ⟨(List.append_nil front).symm, shape⟩)
    | cons first between =>
        rw [List.cons_append, List.cons.injEq] at shape
        exact .inl (by simp [shape.1])
  · cases between with
    | nil =>
        rw [List.nil_append, List.cons.injEq] at shape
        exact .inr (.inr ⟨List.append_nil other, shape.1.symm, shape.2.symm⟩)
    | cons first between =>
        rw [List.cons_append, List.cons.injEq] at shape
        exact .inr (.inl (by simp [shape.1]))

theorem Text.byteLength_nil : byteLength [] = 0 := rfl

theorem Text.byteLength_cons (character : Char) (characters : List Char) :
    byteLength (character :: characters) = character.utf8Size + byteLength characters := rfl

theorem Text.byteLength_append (front back : List Char) :
    byteLength (front ++ back) = byteLength front + byteLength back := by
  induction front with
  | nil => rw [List.nil_append, byteLength_nil, Nat.zero_add]
  | cons character front induction =>
      rw [List.cons_append, byteLength_cons, byteLength_cons, induction, Nat.add_assoc]

/-! ## The grammar of addresses -/

namespace Address

/-- The address is written as its offset and, between parentheses, its base. Neither holds
a parenthesis, and only the offset may be empty. -/
structure Written (address : Address) (operand : String) : Prop where
  whole : operand = address.offset ++ "(" ++ address.base ++ ")"
  offset : ∀ character ∈ address.offset.toList, isParenthesis character = false
  base : ∀ character ∈ address.base.toList, isParenthesis character = false
  filled : address.base ≠ ""

/-- An operand whose last character closes a parenthesis, taken apart at the first one that
opens. What stands between the two may be anything. -/
structure Closed (operand : String) (offset base : List Char) : Prop where
  whole : operand.toList = offset ++ '(' :: (base ++ [')'])
  first : '(' ∉ offset

theorem Written.closed {address : Address} {operand : String}
    (written : address.Written operand) :
    Closed operand address.offset.toList address.base.toList where
  whole := by
    have opening : "(".toList = ['('] := by decide
    have closing : ")".toList = [')'] := by decide
    rw [written.whole]
    simp [opening, closing]
  first := fun member => by cases written.offset _ member

theorem exists_closed {operand : String} (opens : '(' ∈ operand.toList)
    (closes : operand.toList.getLast? = some ')') : ∃ offset base, Closed operand offset base := by
  rcases List.eq_append_cons_of_mem opens with ⟨offset, inner, whole, first⟩
  rw [whole, List.getLast?_append, List.getLast?_cons, Option.some_or] at closes
  rcases List.eq_nil_or_concat inner with rfl | ⟨base, last, rfl⟩
  · cases closes
  · rw [List.concat_eq_append, List.getLast?_concat, Option.getD_some, Option.some.injEq] at closes
    subst closes
    rw [List.concat_eq_append] at whole
    exact ⟨offset, base, whole, first⟩

namespace Closed

variable {operand : String} {offset base : List Char}

theorem opens (closed : Closed operand offset base) : '(' ∈ operand.toList := by
  simp [closed.whole]

theorem closes (closed : Closed operand offset base) : operand.toList.getLast? = some ')' := by
  rw [closed.whole, ← List.cons_append, ← List.append_assoc, List.getLast?_concat]

theorem unique {otherOffset otherBase : List Char} (closed : Closed operand offset base)
    (other : Closed operand otherOffset otherBase) : offset = otherOffset ∧ base = otherBase := by
  rcases Text.order_of_append_cons_eq (closed.whole.symm.trans other.whole) with
    inOther | inOffset | ⟨sameOffset, _, sameBase⟩
  · exact absurd inOther other.first
  · exact absurd inOffset closed.first
  · exact ⟨sameOffset, List.append_cancel_right sameBase⟩

theorem takeWhile_eq (closed : Closed operand offset base) :
    operand.toList.takeWhile (· != '(') = offset ∧
      operand.toList.dropWhile (· != '(') = '(' :: (base ++ [')']) := by
  have others : ∀ character ∈ offset, (character != '(') = true := by
    intro character member
    rw [bne_iff_ne]
    rintro rfl
    exact closed.first member
  rw [closed.whole, List.takeWhile_append_of_pos others, List.dropWhile_append_of_pos others]
  simp

/-- The checks that are left for an operand of this shape. -/
theorem ofOperand_eq (closed : Closed operand offset base) :
    ofOperand operand =
      if ')' ∈ offset then .error .unbalanced
      else if base = [] ∨ base.any isParenthesis = true then .error .badBase
      else .ok ⟨String.ofList offset, String.ofList base⟩ := by
  rcases closed.takeWhile_eq with ⟨taken, dropped⟩
  simp [ofOperand, closed.closes, taken, dropped]

end Closed

/-- The number of bytes ahead of the first parenthesis that opens. -/
def openingByte (operand : String) : Nat :=
  Text.byteLength (operand.toList.takeWhile (· != '('))

/-- Between the parentheses of an operand there is room for a base, if only for an empty
one. -/
theorem openingByte_le {operand : String} (opens : '(' ∈ operand.toList)
    (closes : operand.toList.getLast? = some ')') :
    openingByte operand + 1 ≤ Text.byteLength operand.toList - 1 := by
  rcases exists_closed opens closes with ⟨offset, base, closed⟩
  have opening : '('.utf8Size = 1 := by decide
  have closing : ')'.utf8Size = 1 := by decide
  rw [openingByte, closed.takeWhile_eq.1, closed.whole]
  simp only [Text.byteLength_append, Text.byteLength_cons, Text.byteLength_nil, opening, closing]
  omega

end Address

/-! ## Faults in their order -/

namespace AddressFault

/-- Whether a fault can be found with some operands, whatever others can be found. -/
def Applies (operands : List String) : AddressFault → Prop
  | .missing => operands.length < 2
  | .noOpening => ∃ operand, operands[1]? = some operand ∧ '(' ∉ operand.toList
  | .noClosing => ∃ operand, operands[1]? = some operand ∧
      operand.toList.getLast? ≠ some ')'
  | .unbalanced => ∃ operand front back, operands[1]? = some operand ∧
      operand.toList = front ++ ')' :: back ∧ '(' ∉ front
  | .badBase => ∃ operand offset base, operands[1]? = some operand ∧
      Address.Closed operand offset base ∧
      (base = [] ∨ ∃ character ∈ base, Address.isParenthesis character = true)

/-- The order in which faults are looked for. -/
def order : List AddressFault := [.missing, .noOpening, .noClosing, .unbalanced, .badBase]

/-- The fault that is found first. -/
structure IsFirst (operands : List String) (fault : AddressFault) : Prop where
  applies : fault.Applies operands
  first : ∀ earlier ∈ order.takeWhile (· ≠ fault), ¬ earlier.Applies operands

theorem IsFirst.unique {operands : List String} {fault other : AddressFault}
    (first : fault.IsFirst operands) (otherFirst : other.IsFirst operands) : fault = other := by
  have ordered : ∀ left right : AddressFault, left ≠ right →
      left ∈ order.takeWhile (· ≠ right) ∨ right ∈ order.takeWhile (· ≠ left) := by
    intro left right
    cases left <;> cases right <;> decide
  by_contra different
  rcases ordered fault other different with earlier | earlier
  · exact otherFirst.first fault earlier first.applies
  · exact first.first other earlier otherFirst.applies

section

variable {first operand : String} {others : List String} {offset base : List Char}

theorem not_applies_missing : ¬ Applies (first :: operand :: others) .missing := by
  simp [Applies]

theorem applies_noOpening_iff :
    Applies (first :: operand :: others) .noOpening ↔ '(' ∉ operand.toList := by
  simp [Applies]

theorem applies_noClosing_iff :
    Applies (first :: operand :: others) .noClosing ↔ operand.toList.getLast? ≠ some ')' := by
  simp [Applies]

theorem applies_unbalanced_iff (closed : Address.Closed operand offset base) :
    Applies (first :: operand :: others) .unbalanced ↔ ')' ∈ offset := by
  constructor
  · rintro ⟨_, front, back, ⟨⟩, split, early⟩
    rcases Text.order_of_append_cons_eq (split.symm.trans closed.whole) with
      inOffset | inFront | ⟨_, same, _⟩
    · exact inOffset
    · exact absurd inFront early
    · cases same
  · intro member
    rcases List.append_of_mem member with ⟨front, back, rfl⟩
    refine ⟨operand, front, back ++ '(' :: (base ++ [')']), rfl, ?_, ?_⟩
    · rw [closed.whole, List.append_assoc, List.cons_append]
    · exact fun early => closed.first (List.mem_append_left _ early)

theorem applies_badBase_iff (closed : Address.Closed operand offset base) :
    Applies (first :: operand :: others) .badBase ↔
      base = [] ∨ ∃ character ∈ base, Address.isParenthesis character = true := by
  constructor
  · rintro ⟨_, otherOffset, otherBase, ⟨⟩, other, bad⟩
    rw [(closed.unique other).2]
    exact bad
  · exact fun bad => ⟨operand, offset, base, rfl, closed, bad⟩

/-! Each fault is the first one where the checks ahead of it are passed. -/

theorem isFirst_noOpening (unopened : '(' ∉ operand.toList) :
    IsFirst (first :: operand :: others) .noOpening where
  applies := applies_noOpening_iff.mpr unopened
  first := by simp [order, not_applies_missing]

theorem isFirst_noClosing (opens : '(' ∈ operand.toList)
    (unclosed : operand.toList.getLast? ≠ some ')') :
    IsFirst (first :: operand :: others) .noClosing where
  applies := applies_noClosing_iff.mpr unclosed
  first := by simp [order, not_applies_missing, applies_noOpening_iff, opens]

theorem isFirst_unbalanced (closed : Address.Closed operand offset base)
    (unbalanced : ')' ∈ offset) : IsFirst (first :: operand :: others) .unbalanced where
  applies := (applies_unbalanced_iff closed).mpr unbalanced
  first := by
    simp [order, not_applies_missing, applies_noOpening_iff, closed.opens,
      applies_noClosing_iff, closed.closes]

theorem isFirst_badBase (closed : Address.Closed operand offset base) (balanced : ')' ∉ offset)
    (bad : base = [] ∨ ∃ character ∈ base, Address.isParenthesis character = true) :
    IsFirst (first :: operand :: others) .badBase where
  applies := (applies_badBase_iff closed).mpr bad
  first := by
    simp [order, not_applies_missing, applies_noOpening_iff, closed.opens,
      applies_noClosing_iff, closed.closes, applies_unbalanced_iff closed, balanced]

/-- No fault can be found with an operand that the grammar allows. -/
theorem not_applies_of_written {address : Address} (written : address.Written operand)
    (fault : AddressFault) : ¬ fault.Applies (first :: operand :: others) := by
  have closed := written.closed
  cases fault with
  | missing => exact not_applies_missing
  | noOpening => exact fun applies => applies_noOpening_iff.mp applies closed.opens
  | noClosing => exact fun applies => applies_noClosing_iff.mp applies closed.closes
  | unbalanced =>
      intro applies
      cases written.offset _ ((applies_unbalanced_iff closed).mp applies)
  | badBase =>
      intro applies
      rcases (applies_badBase_iff closed).mp applies with empty | ⟨character, member, found⟩
      · exact written.filled (String.toList_eq_nil_iff.mp empty)
      · rw [written.base character member] at found
        cases found

end

end AddressFault

namespace Address

theorem written_of_closed {operand : String} {offset base : List Char}
    (closed : Closed operand offset base) (balanced : ')' ∉ offset)
    (sound : ¬(base = [] ∨ ∃ character ∈ base, isParenthesis character = true)) :
    Written ⟨String.ofList offset, String.ofList base⟩ operand := by
  have opening : "(".toList = ['('] := by decide
  have closing : ")".toList = [')'] := by decide
  rw [not_or] at sound
  refine ⟨?_, ?_, ?_, ?_⟩
  · apply String.toList_inj.mp
    rw [closed.whole]
    simp [opening, closing]
  · intro character member
    rw [String.toList_ofList] at member
    apply Bool.eq_false_iff.mpr
    intro found
    rw [isParenthesis, Bool.or_eq_true, beq_iff_eq, beq_iff_eq] at found
    rcases found with rfl | rfl
    · exact closed.first member
    · exact balanced member
  · intro character member
    rw [String.toList_ofList] at member
    exact Bool.eq_false_iff.mpr fun found => sound.2 ⟨character, member, found⟩
  · exact fun empty => sound.1 (String.ofList_eq_empty_iff.mp empty)

theorem ofOperand_of_not_mem {operand : String} (unopened : '(' ∉ operand.toList) :
    ofOperand operand = .error .noOpening := by
  have none : operand.toList.dropWhile (· != '(') = [] := by
    rw [List.dropWhile_eq_nil_iff]
    intro character member
    rw [bne_iff_ne]
    rintro rfl
    exact unopened member
  simp only [ofOperand, none]

theorem ofOperand_of_getLast?_ne {operand : String} (opens : '(' ∈ operand.toList)
    (unclosed : operand.toList.getLast? ≠ some ')') :
    ofOperand operand = .error .noClosing := by
  simp only [ofOperand]
  split
  next none =>
    rw [List.dropWhile_eq_nil_iff] at none
    cases none '(' opens
  next => rw [if_pos unclosed]

/-- The second operand is an address as it is written, or the first fault is found. The
checks are made one after the other, so that each may rely on those ahead of it. -/
theorem ofOperands_outcome (operands : List String) :
    (∃ first operand others address, operands = first :: operand :: others ∧
      ofOperands operands = .ok address ∧ address.Written operand) ∨
    ∃ fault, ofOperands operands = .error fault ∧ fault.IsFirst operands := by
  match operands with
  | [] => exact .inr ⟨.missing, rfl, Nat.zero_lt_two, nofun⟩
  | [first] => exact .inr ⟨.missing, rfl, Nat.one_lt_two, nofun⟩
  | first :: operand :: others =>
  rw [ofOperands]
  by_cases opens : '(' ∈ operand.toList
  case neg =>
    exact .inr ⟨_, ofOperand_of_not_mem opens, AddressFault.isFirst_noOpening opens⟩
  by_cases closes : operand.toList.getLast? = some ')'
  case neg =>
    exact .inr ⟨_, ofOperand_of_getLast?_ne opens closes,
      AddressFault.isFirst_noClosing opens closes⟩
  rcases exists_closed opens closes with ⟨offset, base, closed⟩
  simp only [closed.ofOperand_eq, List.any_eq_true]
  split_ifs with unbalanced bad
  · exact .inr ⟨_, rfl, AddressFault.isFirst_unbalanced closed unbalanced⟩
  · exact .inr ⟨_, rfl, AddressFault.isFirst_badBase closed unbalanced bad⟩
  · exact .inl ⟨first, operand, others, _, rfl, rfl, written_of_closed closed unbalanced bad⟩

end Address

/-! ## Memory operations -/

theorem Category.ofOperation?_of_mem {operation : String}
    (memory : operation ∈ Schema.memoryOperations) :
    ofOperation? operation = some .memory := by
  have rows : ∀ operation ∈ Schema.memoryOperations, ofOperation? operation = some .memory := by
    decide +kernel
  exact rows operation memory

namespace Gloss

variable {statement : Statement}

/-- The gloss of a memory operation with the two operands that it needs. -/
structure Addressed (statement : Statement) (gloss : Gloss) : Prop where
  operation : gloss.operation = statement.operation
  parts : ∃ (first operand : String) (others : List String) (address : Address),
    statement.operands = first :: operand :: others ∧ address.Written operand ∧
    gloss.record.fields =
      [("rt", some first), ("offset", some address.offset), ("rs", some address.base)] ∧
    ∃ lead, gloss.explanation =
      lead ++ (statement.operation ++ " " ++ first ++ ", " ++ operand)

/-- The complaint about operands that a memory operation cannot use. -/
structure Refused (statement : Statement) (error : OperandError) : Prop where
  operation : error.operation = statement.operation
  second : ∀ first operand others, statement.operands = first :: operand :: others →
    error.token = operand
  few : statement.operands.length < 2 → error.token = " ".intercalate statement.operands
  fault : error.fault.IsFirst statement.operands

/-- The sentence of a memory operation repeats the operands as they were written. -/
theorem exists_explanation_eq (operation first : String) {operand : String} {address : Address}
    (written : address.Written operand) {record : Record}
    (rt : record.get .rt = some first) (offset : record.get .offset = some address.offset)
    (base : record.get .rs = some address.base) :
    ∃ lead, Explanation.text .memory operation record =
      lead ++ (operation ++ " " ++ first ++ ", " ++ operand) := by
  let lead : Template := (Explanation.memoryTemplate operation).take 5
  let operands : Template :=
    [operation, " ", .slot .rt, ", ", .slot .offset, "(", .slot .rs, ")"]
  have split : Explanation.memoryTemplate operation = lead ++ operands := rfl
  refine ⟨lead.render record, ?_⟩
  rw [Explanation.text, Explanation.template?, Option.getD_some, split]
  apply String.toList_inj.mp
  rw [String.toList_append, Template.toList_render, Template.toList_render, List.flatMap_append,
    written.whole]
  simp [operands, Piece.render, rt, offset, base, slotText]

theorem addressed_ofKnown (functs : FunctLookup) {first operand : String}
    {others : List String} {address : Address}
    (operands : statement.operands = first :: operand :: others)
    (parsed : Address.ofOperands statement.operands = .ok address)
    (written : address.Written operand) :
    Addressed statement (ofKnown functs .memory statement) := by
  have record : (ofKnown functs .memory statement).record =
      [(.rt, some first), (.offset, some address.offset), (.rs, some address.base)] := by
    have rt : statement.operands[0]? = some first := by rw [operands]; rfl
    simp [ofKnown, Layout.fill, Layout.ofOperation, Layout.first, Source.value, parsed, rt,
      Except.toOption]
  have explanation := exists_explanation_eq statement.operation first written
    (congrArg (Record.get · .rt) record) (congrArg (Record.get · .offset) record)
    (congrArg (Record.get · .rs) record)
  refine ⟨rfl, first, operand, others, address, operands, written, ?_, explanation⟩
  rw [record]
  rfl

theorem refused_of_isFirst {fault : AddressFault} (isFirst : fault.IsFirst statement.operands) :
    Refused statement ⟨statement.operation,
      statement.operands[1]?.getD (" ".intercalate statement.operands), fault⟩ where
  operation := rfl
  second := by
    intro first operand others operands
    simp [operands]
  few := by
    intro few
    rw [List.getElem?_eq_none (by omega), Option.getD_none]
  fault := isFirst

theorem Refused.unique {error other : OperandError} (refused : Refused statement error)
    (otherRefused : Refused statement other) : error = other := by
  rcases error with ⟨operation, token, fault⟩
  rcases other with ⟨otherOperation, otherToken, otherFault⟩
  have sameOperation := refused.operation.trans otherRefused.operation.symm
  have sameFault := refused.fault.unique otherRefused.fault
  have sameToken : token = otherToken := by
    match operands : statement.operands with
    | first :: operand :: others =>
        exact (refused.second _ _ _ operands).trans (otherRefused.second _ _ _ operands).symm
    | [] | [first] =>
        have few : statement.operands.length < 2 := by simp [operands]
        exact (refused.few few).trans (otherRefused.few few).symm
  cases sameOperation
  cases sameFault
  cases sameToken
  rfl

/-- A memory operation gets a gloss for an address, and a complaint for anything else. -/
theorem ofStatement_memory (functs : FunctLookup)
    (memory : statement.operation ∈ Schema.memoryOperations) :
    (∃ gloss, ofStatement functs statement = .ok gloss ∧ Addressed statement gloss) ∨
    ∃ error, ofStatement functs statement = .error error ∧ Refused statement error := by
  have found := Category.ofOperation?_of_mem memory
  rcases Address.ofOperands_outcome statement.operands with
    ⟨first, operand, others, address, operands, parsed, written⟩ | ⟨fault, failed, isFirst⟩
  · refine .inl ⟨_, ?_, addressed_ofKnown functs operands parsed written⟩
    simp only [ofStatement, found, complaint?, parsed]
  · refine .inr ⟨_, ?_, refused_of_isFirst isFirst⟩
    simp only [ofStatement, found, complaint?, failed]

/-- A memory operation is explained exactly where its second operand is an address. Its
record holds the first operand and the two parts of the address, and its explanation ends
with the operands as they were written. Otherwise the complaint names the operation, the
operand and the first fault. What is cut out of an operand for its base lies inside of
it. -/
theorem ofLine_memory (functs : FunctLookup) {line : String}
    (memory : (Statement.ofLine line).operation ∈ Schema.memoryOperations) :
    ((∃ gloss, ofLine functs line = .ok gloss) ↔
      ∃ (first operand : String) (others : List String) (address : Address),
        (Statement.ofLine line).operands = first :: operand :: others ∧
          address.Written operand) ∧
    (∀ gloss, ofLine functs line = .ok gloss → Addressed (Statement.ofLine line) gloss) ∧
    (∀ error, ofLine functs line = .error error ↔ Refused (Statement.ofLine line) error) ∧
    ∀ operand : String, '(' ∈ operand.toList → operand.toList.getLast? = some ')' →
      Address.openingByte operand + 1 ≤ Text.byteLength operand.toList - 1 := by
  have cut : ∀ operand : String, '(' ∈ operand.toList →
      operand.toList.getLast? = some ')' →
      Address.openingByte operand + 1 ≤ Text.byteLength operand.toList - 1 :=
    fun _ => Address.openingByte_le
  rw [ofLine]
  rcases ofStatement_memory functs memory with
    ⟨gloss, success, addressed⟩ | ⟨error, failed, refused⟩
  · rcases addressed.parts with ⟨first, operand, others, address, operands, written, _⟩
    rw [success]
    refine ⟨⟨fun _ => ⟨_, _, _, _, operands, written⟩, fun _ => ⟨gloss, rfl⟩⟩, ?_, ?_, cut⟩
    · rintro _ ⟨⟩
      exact addressed
    · refine fun error => ⟨nofun, fun refused => ?_⟩
      have applies := refused.fault.applies
      rw [operands] at applies
      exact absurd applies (AddressFault.not_applies_of_written written _)
  · rw [failed]
    refine ⟨⟨nofun, ?_⟩, nofun, ?_, cut⟩
    · rintro ⟨first, operand, others, address, operands, written⟩
      have applies := refused.fault.applies
      rw [operands] at applies
      exact absurd applies (AddressFault.not_applies_of_written written _)
    · intro other
      rw [Except.error.injEq]
      constructor
      · rintro rfl
        exact refused
      · exact refused.unique

/-- An address with blanks and a comma in its base, and an operand with two bases. -/
theorem ofLine_memory_bases :
    (Statement.ofLine " Lw\t$t0 ,%lo(a , b)").operation ∈ Schema.memoryOperations ∧
    (∃ gloss, ofLine Funct.text? " Lw\t$t0 ,%lo(a , b)" = .ok gloss ∧
      Addressed (Statement.ofLine " Lw\t$t0 ,%lo(a , b)") gloss) ∧
    (Statement.ofLine "sb $t0, (a)(b)").operation ∈ Schema.memoryOperations ∧
    Refused (Statement.ofLine "sb $t0, (a)(b)") ⟨"sb", "(a)(b)", .badBase⟩ := by
  have memory : (Statement.ofLine " Lw\t$t0 ,%lo(a , b)").operation ∈
      Schema.memoryOperations := by decide +kernel
  have otherMemory : (Statement.ofLine "sb $t0, (a)(b)").operation ∈
      Schema.memoryOperations := by decide +kernel
  have success : ofLine Funct.text? " Lw\t$t0 ,%lo(a , b)" =
      .ok ⟨"lw", "Load word: lw $t0, %lo(a , b)",
        [(.rt, some "$t0"), (.offset, some "%lo"), (.rs, some "a , b")]⟩ := by decide +kernel
  have failure : ofLine Funct.text? "sb $t0, (a)(b)" =
      .error ⟨"sb", "(a)(b)", .badBase⟩ := by decide +kernel
  rcases ofLine_memory Funct.text? memory with ⟨_, explained, _⟩
  rcases ofLine_memory Funct.text? otherMemory with ⟨_, _, refused, _⟩
  exact ⟨memory, ⟨_, success, explained _ success⟩, otherMemory, (refused _).mp failure⟩

end Gloss

end MipsGloss
