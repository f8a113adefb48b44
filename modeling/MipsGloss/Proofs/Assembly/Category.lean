import Mathlib.Data.List.Induction
import Mathlib.Data.List.Pairwise
import Mathlib.Data.List.Perm.Basic
import MipsGloss.Assembly.Category

namespace MipsGloss.Category

/-! The table of operations and the order in which its groups are entered. A group takes
over every name that it lists, so that the last group that lists a name decides about it.
Where no name is listed by two groups there is nothing to decide, and all orders give the
same table; where one is, two orders give different tables. -/

universe u

variable {κ : Type u}

/-! ## Entering groups -/

/-- What one group does to the table. -/
theorem lookup_enter (table : List (String × κ)) (group : κ × List String)
    (operation : String) :
    (enter table group).lookup operation =
      if operation ∈ group.2 then some group.1 else table.lookup operation := by
  rcases group with ⟨category, names⟩
  induction names generalizing table with
  | nil => simp [enter]
  | cons name names induction =>
      have rest := induction ((name, category) :: table)
      simp only [enter, List.foldl_cons] at rest ⊢
      rw [rest]
      by_cases same : operation = name
      · simp [same]
      · have other : (operation == name) = false := beq_false_of_ne same
        simp [same, other, List.lookup_cons]

theorem lookup_index_append (groups : List (κ × List String)) (last : κ × List String)
    (operation : String) :
    (index (groups ++ [last])).lookup operation =
      if operation ∈ last.2 then some last.1 else (index groups).lookup operation := by
  rw [index, List.foldl_append]
  exact lookup_enter _ last operation

/-- What all groups do to the table: a name is found under a group that lists it, if there
is one. -/
theorem lookup_index_cases (groups : List (κ × List String)) (operation : String) :
    (∃ group ∈ groups, operation ∈ group.2 ∧
      (index groups).lookup operation = some group.1) ∨
    (∀ group ∈ groups, operation ∉ group.2) ∧ (index groups).lookup operation = none := by
  -- The last group decides, so the induction takes groups off the end.
  induction groups using List.reverseRecOn with
  | nil => exact .inr ⟨by simp, rfl⟩
  | append_singleton groups last induction =>
      rw [lookup_index_append]
      by_cases listed : operation ∈ last.2
      · exact .inl ⟨last, by simp, listed, if_pos listed⟩
      · rw [if_neg listed]
        rcases induction with ⟨group, member, lists, found⟩ | ⟨absent, missing⟩
        · exact .inl ⟨group, List.mem_append_left _ member, lists, found⟩
        · refine .inr ⟨?_, missing⟩
          exact List.forall_mem_append.mpr ⟨absent, List.forall_mem_singleton.mpr listed⟩

/-! ## Groups without a common name -/

def Disjoint (left right : κ × List String) : Prop := ∀ name ∈ left.2, name ∉ right.2

theorem Disjoint.symm {left right : κ × List String} (disjoint : Disjoint left right) :
    Disjoint right left :=
  fun name rightLists leftLists => disjoint name leftLists rightLists

/-- No name is listed by two of the groups. -/
def Apart (groups : List (κ × List String)) : Prop := groups.Pairwise Disjoint

theorem Apart.eq_of_mem {groups : List (κ × List String)} (apart : Apart groups)
    {left right : κ × List String} (leftMember : left ∈ groups) (rightMember : right ∈ groups)
    {operation : String} (leftLists : operation ∈ left.2) (rightLists : operation ∈ right.2) :
    left = right := by
  by_contra different
  have symmetric : Std.Symm (@Disjoint κ) := ⟨fun _ _ => Disjoint.symm⟩
  exact apart.forall leftMember rightMember different operation leftLists rightLists

theorem Apart.of_perm {groups order : List (κ × List String)} (apart : Apart groups)
    (permuted : order.Perm groups) : Apart order :=
  permuted.symm.pairwise apart Disjoint.symm

/-- The table leads from every name that is listed to the one group that lists it, and
from no other name to any group. -/
structure Indexes (table : List (String × κ)) (groups : List (κ × List String)) : Prop where
  listed : ∀ group ∈ groups, ∀ operation ∈ group.2,
    table.lookup operation = some group.1 ∧
      ∀ other ∈ groups, operation ∈ other.2 → other = group
  unlisted : ∀ operation, (∀ group ∈ groups, operation ∉ group.2) →
    table.lookup operation = none

theorem Apart.indexes_index {groups : List (κ × List String)} (apart : Apart groups) :
    Indexes (index groups) groups := by
  constructor
  · intro group member operation listed
    have only : ∀ other ∈ groups, operation ∈ other.2 → other = group :=
      fun other otherMember lists => apart.eq_of_mem otherMember member lists listed
    rcases lookup_index_cases groups operation with
      ⟨other, otherMember, lists, found⟩ | ⟨absent, _⟩
    · rw [only other otherMember lists] at found
      exact ⟨found, only⟩
    · exact absurd listed (absent group member)
  · intro operation absent
    rcases lookup_index_cases groups operation with ⟨group, member, listed, _⟩ | ⟨_, missing⟩
    · exact absurd listed (absent group member)
    · exact missing

/-- Which groups there are matters, and not in which order. -/
theorem Indexes.of_perm {table : List (String × κ)} {groups order : List (κ × List String)}
    (indexes : Indexes table order) (permuted : order.Perm groups) : Indexes table groups := by
  constructor
  · intro group member operation listed
    rcases indexes.listed group (permuted.mem_iff.mpr member) operation listed with
      ⟨found, only⟩
    exact ⟨found, fun other otherMember => only other (permuted.mem_iff.mpr otherMember)⟩
  · intro operation absent
    apply indexes.unlisted operation
    exact fun group member => absent group (permuted.mem_iff.mp member)

theorem Indexes.lookup_eq {left right : List (String × κ)} {groups : List (κ × List String)}
    (leftIndexes : Indexes left groups) (rightIndexes : Indexes right groups)
    (operation : String) : left.lookup operation = right.lookup operation := by
  by_cases listed : ∃ group ∈ groups, operation ∈ group.2
  · rcases listed with ⟨group, member, listed⟩
    rw [(leftIndexes.listed group member operation listed).1,
      (rightIndexes.listed group member operation listed).1]
  · have absent : ∀ group ∈ groups, operation ∉ group.2 :=
      fun group member lists => listed ⟨group, member, lists⟩
    rw [leftIndexes.unlisted operation absent, rightIndexes.unlisted operation absent]

theorem Apart.indexes_order {groups order : List (κ × List String)} (apart : Apart groups)
    (permuted : order.Perm groups) : Indexes (index order) groups :=
  (apart.of_perm permuted).indexes_index.of_perm permuted

/-! ## Groups with a common name -/

/-- Every group can be the one that decides. -/
theorem exists_order_found {groups : List (κ × List String)} {group : κ × List String}
    (member : group ∈ groups) {operation : String} (listed : operation ∈ group.2) :
    ∃ order, order.Perm groups ∧ (index order).lookup operation = some group.1 := by
  rcases List.append_of_mem member with ⟨front, back, rfl⟩
  refine ⟨(front ++ back) ++ [group], ?_, ?_⟩
  · exact (List.perm_append_singleton group (front ++ back)).trans List.perm_middle.symm
  · rw [lookup_index_append, if_pos listed]

/-! ## The table -/

theorem apart_groups : Apart groups := by
  unfold Apart Disjoint
  decide +kernel

/-- Every order of the groups gives the table. It leads from each operation to the group
that lists it. The same holds of all groups without a common name, and of groups of two
categories with a common name it never does. -/
theorem index_of_orders :
    (∀ order, order.Perm groups →
      (∀ operation, (index order).lookup operation = ofOperation? operation) ∧
        Indexes (index order) groups) ∧
    ∀ {κ : Type u} (groups : List (κ × List String)),
      (Apart groups → ∀ order, order.Perm groups →
        (∀ operation, (index order).lookup operation = (index groups).lookup operation) ∧
          Indexes (index order) groups) ∧
      ∀ left ∈ groups, ∀ right ∈ groups, left.1 ≠ right.1 →
        ∀ operation, operation ∈ left.2 → operation ∈ right.2 →
          ∃ order other, order.Perm groups ∧ other.Perm groups ∧
            (index order).lookup operation ≠ (index other).lookup operation := by
  refine ⟨fun order permuted => ?_, fun groups => ⟨fun apart order permuted => ?_, ?_⟩⟩
  · have indexes := apart_groups.indexes_order permuted
    exact ⟨indexes.lookup_eq apart_groups.indexes_index, indexes⟩
  · have indexes := apart.indexes_order permuted
    exact ⟨indexes.lookup_eq apart.indexes_index, indexes⟩
  · intro left leftMember right rightMember different operation leftLists rightLists
    rcases exists_order_found leftMember leftLists with ⟨order, permuted, found⟩
    rcases exists_order_found rightMember rightLists with ⟨other, otherPermuted, otherFound⟩
    refine ⟨order, other, permuted, otherPermuted, ?_⟩
    rw [found, otherFound]
    exact fun same => different (Option.some.inj same)

/-- Two categories that both list a rotation. -/
def contested : List (Category × List String) :=
  [(.variableShift, ["rol", "ror"]), (.shift, ["sll", "rol"])]

theorem index_of_contested :
    (∀ operation, (index groups.reverse).lookup operation = ofOperation? operation) ∧
      ∃ order other, order.Perm contested ∧ other.Perm contested ∧
        (index order).lookup "rol" ≠ (index other).lookup "rol" := by
  rcases index_of_orders with ⟨ofTable, ofGroups⟩
  constructor
  · exact (ofTable groups.reverse (List.reverse_perm groups)).1
  · exact (ofGroups contested).2 (.variableShift, ["rol", "ror"]) (by decide)
      (.shift, ["sll", "rol"]) (by decide) (by decide) "rol" (by decide) (by decide)

end MipsGloss.Category
