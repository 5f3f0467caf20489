import KeyedQuery.Criteria

/-!
The conditions inside a tree of qualifiers, at any depth and from left to right.

The leaves are the conditions that compare something. All conditions are those and the ones that
groups have of their own, of which only the operator has a meaning. The operands of a tree are those
of its leaves.
-/

set_option autoImplicit false

namespace KeyedQuery

/-- The operands that a condition has, the first before the second. -/
def Condition.operands (condition : Condition) : List Operand :=
  condition.value1.toList ++ condition.value2.toList

/-- A second operand stands only behind a first one. -/
def Condition.InOrder (condition : Condition) : Prop :=
  condition.value1 = none → condition.value2 = none

theorem Condition.InOrder.values_eq {condition : Condition} (inOrder : condition.InOrder) :
    condition.value1 = condition.operands[0]? ∧ condition.value2 = condition.operands[1]? := by
  obtain ⟨field, operator, first, second⟩ := condition
  cases first with
  | none =>
      have noSecond : second = none := inOrder rfl
      rw [noSecond]
      exact ⟨rfl, rfl⟩
  | some first => cases second <;> exact ⟨rfl, rfl⟩

/-- Operands in order are told by their list. -/
theorem Condition.eq_of_operands_eq {left right : Condition} (leftInOrder : left.InOrder)
    (rightInOrder : right.InOrder) (sameField : left.field = right.field)
    (sameOperator : left.operator = right.operator) (sameOperands : left.operands = right.operands) :
    left = right := by
  obtain ⟨leftFirst, leftSecond⟩ := leftInOrder.values_eq
  obtain ⟨rightFirst, rightSecond⟩ := rightInOrder.values_eq
  have sameFirst : left.value1 = right.value1 := by rw [leftFirst, sameOperands, ← rightFirst]
  have sameSecond : left.value2 = right.value2 := by rw [leftSecond, sameOperands, ← rightSecond]
  calc left
    _ = ⟨left.field, left.operator, left.value1, left.value2⟩ := rfl
    _ = ⟨right.field, right.operator, right.value1, right.value2⟩ := by
      rw [sameField, sameOperator, sameFirst, sameSecond]
    _ = right := rfl

namespace Qualifier

mutual

def leaves : Qualifier → List Condition
  | .leaf condition => [condition]
  | .group _ nested => leavesOf nested

def leavesOf : List Qualifier → List Condition
  | [] => []
  | qualifier :: rest => leaves qualifier ++ leavesOf rest

end

mutual

/-- The conditions of the leaves and, each before those of its members, of the groups. -/
def conditions : Qualifier → List Condition
  | .leaf condition => [condition]
  | .group head nested => head :: conditionsOf nested

def conditionsOf : List Qualifier → List Condition
  | [] => []
  | qualifier :: rest => conditions qualifier ++ conditionsOf rest

end

@[simp] theorem leaves_leaf (condition : Condition) : (leaf condition).leaves = [condition] := by
  rw [leaves]

@[simp] theorem conditions_leaf (condition : Condition) :
    (leaf condition).conditions = [condition] := by
  rw [conditions]

theorem leavesOf_eq_flatMap (qualifiers : List Qualifier) :
    leavesOf qualifiers = qualifiers.flatMap leaves := by
  induction qualifiers with
  | nil => rfl
  | cons qualifier rest ih => rw [leavesOf, List.flatMap_cons, ih]

/-! ### Operands -/

/-- The operands of the leaves, from left to right. -/
def operands (qualifier : Qualifier) : List Operand :=
  qualifier.leaves.flatMap Condition.operands

theorem operands_leaf (condition : Condition) : (leaf condition).operands = condition.operands := by
  rw [operands, leaves_leaf, List.flatMap_singleton]

theorem operands_group (head : Condition) (nested : List Qualifier) :
    (group head nested).operands = nested.flatMap operands := by
  rw [operands, leaves, leavesOf_eq_flatMap, List.flatMap_assoc]
  rfl

end Qualifier

end KeyedQuery
