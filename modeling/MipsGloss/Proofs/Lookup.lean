import Mathlib.Data.List.Perm.Basic

namespace MipsGloss

/-! Values under names, in lists of pairs. The first value of a name is the one that is
found; where no name occurs twice, the order of the pairs does not matter. -/

variable {α β : Type} [BEq α] [LawfulBEq α]

theorem mem_of_lookup {key : α} {value : β} {pairs : List (α × β)}
    (found : pairs.lookup key = some value) : (key, value) ∈ pairs := by
  rcases List.lookup_eq_some_iff.mp found with ⟨front, back, split, _⟩
  rw [split]
  simp

theorem lookup_eq_none_of_not_mem {key : α} {pairs : List (α × β)}
    (absent : key ∉ pairs.map Prod.fst) : pairs.lookup key = none := by
  rw [List.lookup_eq_none_iff]
  intro pair member
  exact bne_iff_ne.mpr fun same => absent (List.mem_map.mpr ⟨pair, member, same.symm⟩)

theorem lookup_cons_of_ne {key first : α} (apart : key ≠ first) (value : β)
    (rest : List (α × β)) : ((first, value) :: rest).lookup key = rest.lookup key := by
  rw [List.lookup_cons, beq_false_of_ne apart]

theorem lookup_eq_of_perm {left right : List (α × β)} (permuted : left.Perm right)
    (distinct : (left.map Prod.fst).Nodup) (key : α) : left.lookup key = right.lookup key := by
  induction permuted with
  | nil => rfl
  | cons pair _ induction =>
      rw [List.map_cons, List.nodup_cons] at distinct
      rw [List.lookup_cons, List.lookup_cons, induction distinct.2]
  | swap first second rest =>
      rcases first with ⟨first, value⟩
      rcases second with ⟨second, other⟩
      have apart : second ≠ first := by
        rintro rfl
        simp at distinct
      by_cases same : key = first
      · subst same
        rw [lookup_cons_of_ne apart.symm, List.lookup_cons_self, List.lookup_cons_self]
      · rw [lookup_cons_of_ne same, List.lookup_cons, lookup_cons_of_ne same, ← List.lookup_cons]
  | trans former _ induction later =>
      exact (induction distinct).trans (later ((former.map Prod.fst).nodup_iff.mp distinct))

/-- Where each of some items has a name of its own and a value or none, the value of a name
is that of the item with the name. -/
theorem lookup_filterMap {γ : Type} (name : γ → α) (value? : γ → Option β) {items : List γ}
    (distinct : (items.map name).Nodup) (key : α) :
    (items.filterMap fun item => (value? item).map fun value => (name item, value)).lookup key =
      (items.find? fun item => name item == key).bind value? := by
  induction items with
  | nil => rfl
  | cons item rest induction =>
      rw [List.map_cons, List.nodup_cons] at distinct
      have others := induction distinct.2
      rw [List.filterMap_cons, List.find?_cons]
      by_cases same : name item = key
      · have absent : rest.find? (fun item => name item == key) = none := by
          rw [List.find?_eq_none]
          intro other member found
          have twice : name other = name item := (beq_iff_eq.mp found).trans same.symm
          exact distinct.1 (List.mem_map.mpr ⟨other, member, twice⟩)
        rw [beq_iff_eq.mpr same]
        cases value : value? item with
        | none => simp [others, absent, value]
        | some found => simp [same, value]
      · rw [beq_false_of_ne same]
        cases value? item with
        | none => exact others
        | some found => exact (lookup_cons_of_ne (Ne.symm same) _ _).trans others

end MipsGloss
