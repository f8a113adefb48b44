import MipsGloss.Proofs.Assembly.Explanation

namespace MipsGloss

/-! Function codes are for information only. Where they are looked up decides about
nothing but the slot that holds them: neither about the outcome, nor about the sentence,
nor about any other slot. -/

/-- What a lookup that may be missing answers. -/
def FunctLookup.ofOption (functs : Option FunctLookup) : FunctLookup :=
  functs.getD fun _ => none

theorem Slot.name_eq_funct_iff {slot : Slot} : slot.name = "funct" ↔ slot = .funct := by
  cases slot <;> decide

theorem Source.value_eq_of_ne_funct {source : Source} (uncoded : source ≠ .funct)
    (left right : FunctLookup) (operation : String) (operands : List String) :
    source.value left operation operands = source.value right operation operands := by
  cases source with
  | funct => exact absurd rfl uncoded
  | _ => rfl

/-! ## Slots by name -/

namespace Layout

/-- The entry of the named slot. -/
def named? (layout : Layout) (name : String) : Option (Slot × Source) :=
  layout.find? (·.1.name == name)

theorem entry?_fill (functs : FunctLookup) (operation : String) (operands : List String)
    (layout : Layout) (name : String) :
    Record.entry? (layout.fill functs operation operands) name =
      (layout.named? name).map fun entry => entry.2.value functs operation operands := by
  rw [Record.entry?, fill, List.find?_map, Option.map_map]
  rfl

theorem names_fill (functs : FunctLookup) (operation : String) (operands : List String)
    (layout : Layout) :
    Record.names (layout.fill functs operation operands) =
      layout.map fun entry => entry.1.name := by
  rw [Record.names, fill, List.map_map]
  rfl

/-- The slot of the function code is declared for the categories that have one. -/
theorem named?_funct (category : Category) (operation : String) (count : Nat) :
    (ofOperation category operation count).named? "funct" =
      if category.hasFunct then some (.funct, .funct) else none := by
  cases category with
  | highLow | jumpTrap | branch =>
      simp only [ofOperation, Category.hasFunct, Bool.false_eq_true, if_true, if_false]
      split_ifs <;> rfl
  | _ => rfl

end Layout

namespace Gloss

/-- Glosses that differ in a function code at most. -/
structure Alike (left right : Gloss) : Prop where
  operation : left.operation = right.operation
  explanation : left.explanation = right.explanation
  names : left.record.names = right.record.names
  entries : ∀ name, name ≠ "funct" → left.record.entry? name = right.record.entry? name

/-- Outcomes that differ in a function code at most. -/
inductive AlikeOutcome : Except OperandError Gloss → Except OperandError Gloss → Prop
  | error (complaint : OperandError) : AlikeOutcome (.error complaint) (.error complaint)
  | ok {left right : Gloss} (alike : Alike left right) : AlikeOutcome (.ok left) (.ok right)

variable {statement : Statement} {category : Category}

/-- No template looks at the function code, so sentences cannot differ in it. -/
theorem explanation_ofKnown_eq
    (found : Category.ofOperation? statement.operation = some category)
    (left right : FunctLookup) :
    (ofKnown left category statement).explanation =
      (ofKnown right category statement).explanation := by
  rcases Explanation.exists_suits found statement.operands.length with ⟨template, chosen, suits⟩
  simp only [ofKnown, Explanation.text, chosen, Option.getD_some]
  apply Template.render_congr
  intro slot looks
  rw [Record.get_fill, Record.get_fill]
  apply Option.bind_congr
  intro source selected
  apply Source.value_eq_of_ne_funct
  intro coded
  have funct := (Layout.source_eq_funct_iff _ (mem_of_lookup selected)).mp coded
  exact suits.uncoded (funct ▸ looks)

theorem entry?_ofKnown_eq {name : String} (other : name ≠ "funct") (left right : FunctLookup) :
    (ofKnown left category statement).record.entry? name =
      (ofKnown right category statement).record.entry? name := by
  simp only [ofKnown, Layout.entry?_fill]
  apply Option.map_congr
  intro entry selected
  apply Source.value_eq_of_ne_funct
  intro coded
  have funct := (Layout.source_eq_funct_iff _ (List.mem_of_find?_eq_some selected)).mp coded
  have same := List.find?_some selected
  rw [beq_iff_eq, Slot.name_eq_funct_iff.mpr funct] at same
  exact other same.symm

theorem alike_ofKnown
    (found : Category.ofOperation? statement.operation = some category)
    (left right : FunctLookup) :
    Alike (ofKnown left category statement) (ofKnown right category statement) where
  operation := rfl
  explanation := explanation_ofKnown_eq found left right
  names := by simp only [ofKnown, Layout.names_fill]
  entries := fun _ other => entry?_ofKnown_eq other left right

theorem alikeOutcome_ofStatement (left right : FunctLookup) (statement : Statement) :
    AlikeOutcome (ofStatement left statement) (ofStatement right statement) := by
  cases found : Category.ofOperation? statement.operation with
  | none =>
      simp only [ofStatement, found]
      exact .ok ⟨rfl, rfl, rfl, fun _ _ => rfl⟩
  | some category =>
      simp only [ofStatement, found]
      cases complaint? category statement with
      | some complaint => exact .error complaint
      | none => exact .ok (alike_ofKnown found left right)

theorem value?_funct_ofKnown (functs : FunctLookup) (category : Category)
    (statement : Statement) :
    (ofKnown functs category statement).record.value? "funct" =
      if category.hasFunct then functs statement.operation else none := by
  simp only [ofKnown, Record.value?, Layout.entry?_fill, Layout.named?_funct]
  split <;> rfl

/-- The function code is there exactly where the operation has one and the lookup knows
it. -/
theorem value?_funct_eq_some_iff {functs : FunctLookup} {gloss : Gloss}
    (success : ofStatement functs statement = .ok gloss) (value : String) :
    gloss.record.value? "funct" = some value ↔
      ∃ category, Category.ofOperation? statement.operation = some category ∧
        category.hasFunct = true ∧ functs statement.operation = some value := by
  cases found : Category.ofOperation? statement.operation with
  | none =>
      simp only [ofStatement, found, Except.ok.injEq] at success
      subst success
      simp [ofUnknown, Record.value?, Record.entry?]
  | some category =>
      rcases eq_ofKnown_of_ofStatement found success with ⟨_, rfl⟩
      rw [value?_funct_ofKnown]
      simp

/-- The lookup of function codes, which may be missing, decides about the function code
and about nothing else. -/
theorem ofLine_alike (left right : Option FunctLookup) (line : String) :
    AlikeOutcome (ofLine (.ofOption left) line) (ofLine (.ofOption right) line) ∧
      ∀ gloss, ofLine (.ofOption left) line = .ok gloss → ∀ value,
        gloss.record.value? "funct" = some value ↔
          ∃ category functs,
            Category.ofOperation? (Statement.ofLine line).operation = some category ∧
            category.hasFunct = true ∧ left = some functs ∧
            functs (Statement.ofLine line).operation = some value := by
  refine ⟨alikeOutcome_ofStatement _ _ _, fun gloss success value => ?_⟩
  rw [value?_funct_eq_some_iff success]
  cases left with
  | none => simp [FunctLookup.ofOption]
  | some functs => simp [FunctLookup.ofOption]

/-- A lookup that knows the code of subtraction only. -/
def subtractionCode : FunctLookup := fun operation =>
  if operation = "sub" then some "100010" else none

theorem ofLine_alike_subtraction :
    (∃ gloss, ofLine (.ofOption (some subtractionCode)) "SUB $t0 $t1 $t2" = .ok gloss ∧
      gloss.record.value? "funct" = some "100010") ∧
    AlikeOutcome (ofLine (.ofOption (some subtractionCode)) "SUB $t0 $t1 $t2")
      (ofLine (.ofOption none) "SUB $t0 $t1 $t2") := by
  have success : ofLine (.ofOption (some subtractionCode)) "SUB $t0 $t1 $t2" =
      .ok ⟨"sub", "$t0 = $t1 - $t2 (with overflow check)",
        [(.rs, some "$t1"), (.rt, some "$t2"), (.rd, some "$t0"), (.shamt, some "0"),
          (.funct, some "100010")]⟩ := by decide +kernel
  rcases ofLine_alike (some subtractionCode) none "SUB $t0 $t1 $t2" with ⟨alike, coded⟩
  have found : Category.ofOperation? (Statement.ofLine "SUB $t0 $t1 $t2").operation =
      some .arithmetic := by decide +kernel
  have known : subtractionCode (Statement.ofLine "SUB $t0 $t1 $t2").operation =
      some "100010" := by decide +kernel
  exact ⟨⟨_, success, (coded _ success _).mpr ⟨.arithmetic, _, found, rfl, rfl, known⟩⟩, alike⟩

end Gloss

end MipsGloss
