import KeyedQuery.Proofs.Binding
import KeyedQuery.Proofs.Leaves

/-!
The blocks of arguments that the parts of an intent are bound to.

The blocks of all parts of all branches lie one behind the other, each as wide as its operator has
operands. A bound part is the leaf over its block, and a bound branch is at the place that the
branches before it leave: binding is never a matter of how far other parts have read.
-/

set_option autoImplicit false

namespace KeyedQuery

/-! ### Blocks -/

/-- The arguments from a position on, as many as the width. One that is not there counts as
null. -/
def argumentBlock (arguments : List Json) (start width : Nat) : List Json :=
  (List.range width).map fun index => arguments[start + index]?.getD .null

/-- The condition of a part whose operands are made from the arguments of a block. -/
def Part.conditionOver (part : Part) (block : List Json) : Condition where
  field := some part.property
  operator := part.operator
  value1 := block[0]?.map Operand.ofArgument
  value2 := block[1]?.map Operand.ofArgument

theorem length_argumentBlock (arguments : List Json) (start width : Nat) :
    (argumentBlock arguments start width).length = width := by
  simp [argumentBlock]

theorem getElem?_argumentBlock (arguments : List Json) (start width index : Nat) :
    (argumentBlock arguments start width)[index]? =
      if index < width then some (arguments[start + index]?.getD .null) else none := by
  unfold argumentBlock
  rw [List.getElem?_map]
  by_cases within : index < width
  · rw [List.getElem?_range within, if_pos within]
    rfl
  · rw [List.getElem?_eq_none (by simpa using within), if_neg within]
    rfl

theorem argumentBlock_add (arguments : List Json) (start first second : Nat) :
    argumentBlock arguments start (first + second) =
      argumentBlock arguments start first ++ argumentBlock arguments (start + first) second := by
  unfold argumentBlock
  rw [List.range_add, List.map_append, List.map_map]
  simp only [Function.comp_def, Nat.add_assoc]

/-- A condition has room for two operands, and no operator has more. -/
theorem Part.operands_conditionOver (part : Part) (arguments : List Json) (start : Nat) :
    (part.conditionOver (argumentBlock arguments start part.arity)).operands =
      (argumentBlock arguments start part.arity).map Operand.ofArgument := by
  have short : (argumentBlock arguments start part.arity).length ≤ 2 := by
    rw [length_argumentBlock]
    exact part.operator.arity_le_two
  match argumentBlock arguments start part.arity, short with
  | [], _ => rfl
  | [first], _ => rfl
  | [first, second], _ => rfl
  | _ :: _ :: _ :: _, tooLong => simp at tooLong

theorem Part.bind_drop (part : Part) (arguments : List Json) (start : Nat) :
    part.bind (arguments.drop start) =
      .leaf (part.conditionOver (argumentBlock arguments start part.arity)) := by
  have operand (index : Nat) :
      ((argumentBlock arguments start part.arity)[index]?).map Operand.ofArgument =
        if index < part.arity then some (operandAt (arguments.drop start) index) else none := by
    rw [getElem?_argumentBlock, operandAt_drop]
    by_cases within : index < part.arity
    · rw [if_pos within, if_pos within]
      rfl
    · rw [if_neg within, if_neg within]
      rfl
  unfold Part.bind Part.conditionOver
  rw [operand 0, operand 1]
  rfl

/-! ### Where parts and branches are bound -/

theorem mem_bindParts_iff (parts : List Part) (arguments : List Json) (qualifier : Qualifier) :
    qualifier ∈ bindParts parts arguments ↔
      ∃ earlier part later, parts = earlier ++ part :: later ∧
        qualifier = part.bind (arguments.drop (Part.totalArity earlier)) := by
  constructor
  · intro member
    obtain ⟨before, after, bound⟩ := List.append_of_mem member
    obtain ⟨earlier, part, later, isSplit, _, isPart, _⟩ := bindParts_eq_append_cons bound
    exact ⟨earlier, part, later, isSplit, isPart⟩
  · rintro ⟨earlier, part, later, isSplit, isPart⟩
    rw [isSplit, isPart, bindParts_append]
    exact List.mem_append_right _ List.mem_cons_self

def Branch.totalArity : List Branch → Nat
  | [] => 0
  | branch :: rest => branch.arity + totalArity rest

theorem bindBranches_cons (branch : Branch) (rest : List Branch) (arguments : List Json) :
    bindBranches (branch :: rest) arguments =
      (if branch.parts = [] then [] else [collapse .and (bindParts branch.parts arguments)]) ++
        bindBranches rest (arguments.drop branch.arity) := by
  cases filled : branch.parts with
  | nil => simp [bindBranches, filled]
  | cons part others => simp [bindBranches, filled]

theorem bindBranches_append (before after : List Branch) (arguments : List Json) :
    bindBranches (before ++ after) arguments =
      bindBranches before arguments ++
        bindBranches after (arguments.drop (Branch.totalArity before)) := by
  induction before generalizing arguments with
  | nil => simp [bindBranches, Branch.totalArity]
  | cons branch rest ih =>
      rw [List.cons_append, bindBranches_cons, bindBranches_cons, ih, List.drop_drop,
        Branch.totalArity, List.append_assoc]

theorem mem_bindBranches_iff (tree : List Branch) (arguments : List Json)
    (qualifier : Qualifier) :
    qualifier ∈ bindBranches tree arguments ↔
      ∃ before branch after, tree = before ++ branch :: after ∧ branch.parts ≠ [] ∧
        qualifier = collapse .and
          (bindParts branch.parts (arguments.drop (Branch.totalArity before))) := by
  constructor
  · intro member
    induction tree generalizing arguments with
    | nil => cases member
    | cons first rest ih =>
        rw [bindBranches_cons] at member
        rcases List.mem_append.mp member with isFirst | inRest
        · by_cases filled : first.parts = []
          · rw [if_pos filled] at isFirst
            cases isFirst
          · rw [if_neg filled] at isFirst
            exact ⟨[], first, rest, rfl, filled, List.mem_singleton.mp isFirst⟩
        · obtain ⟨before, branch, after, isSplit, filled, bound⟩ := ih _ inRest
          refine ⟨first :: before, branch, after, by rw [isSplit, List.cons_append], filled, ?_⟩
          rw [bound, List.drop_drop, Branch.totalArity]
  · rintro ⟨before, branch, after, isSplit, filled, bound⟩
    rw [isSplit, bound, bindBranches_append, bindBranches_cons, if_neg filled]
    exact List.mem_append_right _ List.mem_cons_self

theorem bindBranches_eq_nil_iff (tree : List Branch) (arguments : List Json) :
    bindBranches tree arguments = [] ↔ ∀ branch ∈ tree, branch.parts = [] := by
  induction tree generalizing arguments with
  | nil => simp [bindBranches]
  | cons branch rest ih =>
      rw [bindBranches_cons, List.append_eq_nil_iff, ih, List.forall_mem_cons]
      simp

end KeyedQuery
