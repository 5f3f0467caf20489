import KeyedQuery.Proofs.ArgumentBlocks

/-!
The arguments that bound criteria show.

The operands of bound criteria, from left to right, are the arguments that the parts of the intent
take, with null for each one that is missing. The criteria determine those arguments and are
determined by them, so that no later argument leaves a trace.
-/

set_option autoImplicit false

namespace KeyedQuery

/-! ### What the parts take -/

def Intent.totalArity (intent : Intent) : Nat :=
  Branch.totalArity intent.tree

/-- The arguments in front, one for each operand of each part. Null stands for a missing one. -/
def Intent.consumed (intent : Intent) (arguments : List Json) : List Json :=
  arguments.take intent.totalArity ++
    List.replicate (intent.totalArity - arguments.length) .null

theorem Intent.consumed_eq_argumentBlock (intent : Intent) (arguments : List Json) :
    intent.consumed arguments = argumentBlock arguments 0 intent.totalArity := by
  apply List.ext_getElem?
  intro index
  unfold consumed
  rw [getElem?_argumentBlock, Nat.zero_add]
  by_cases within : index < intent.totalArity
  · rw [if_pos within]
    by_cases supplied : index < arguments.length
    · have inFront : index < (arguments.take intent.totalArity).length := by
        rw [List.length_take]
        omega
      rw [List.getElem?_append_left inFront, List.getElem?_take_of_lt within,
        List.getElem?_eq_getElem supplied]
      rfl
    · have behind : (arguments.take intent.totalArity).length ≤ index := by
        rw [List.length_take]
        omega
      have padded : index - (arguments.take intent.totalArity).length <
          intent.totalArity - arguments.length := by
        rw [List.length_take]
        omega
      have missing : arguments[index]? = none := by
        apply List.getElem?_eq_none
        omega
      rw [List.getElem?_append_right behind, List.getElem?_replicate_of_lt padded, missing]
      rfl
  · rw [if_neg within]
    apply List.getElem?_eq_none
    rw [List.length_append, List.length_take, List.length_replicate]
    omega

/-! ### The operands of what is bound -/

theorem operands_collapse (operator : Operator) (qualifiers : List Qualifier) :
    (collapse operator qualifiers).operands = qualifiers.flatMap Qualifier.operands := by
  unfold collapse
  split
  · rw [List.flatMap_singleton]
  · exact Qualifier.operands_group _ _

theorem operands_bindParts (parts : List Part) (arguments : List Json) (start : Nat) :
    (bindParts parts (arguments.drop start)).flatMap Qualifier.operands =
      (argumentBlock arguments start (Part.totalArity parts)).map Operand.ofArgument := by
  induction parts generalizing start with
  | nil => rfl
  | cons part rest ih =>
      rw [bindParts, List.flatMap_cons, part.bind_drop, Qualifier.operands_leaf,
        part.operands_conditionOver, List.drop_drop, ih, Part.totalArity, argumentBlock_add,
        List.map_append]

theorem operands_bindBranches (tree : List Branch) (arguments : List Json) (start : Nat) :
    (bindBranches tree (arguments.drop start)).flatMap Qualifier.operands =
      (argumentBlock arguments start (Branch.totalArity tree)).map Operand.ofArgument := by
  induction tree generalizing start with
  | nil => rfl
  | cons branch rest ih =>
      have ofBranch : (if branch.parts = [] then []
            else [collapse .and (bindParts branch.parts (arguments.drop start))]).flatMap
              Qualifier.operands =
          (argumentBlock arguments start branch.arity).map Operand.ofArgument := by
        have bound := operands_bindParts branch.parts arguments start
        by_cases empty : branch.parts = []
        · rw [empty] at bound
          rw [if_pos empty, Branch.arity, empty, ← bound]
          rfl
        · rw [if_neg empty, List.flatMap_singleton, operands_collapse, bound]
          rfl
      rw [bindBranches_cons, List.flatMap_append, ofBranch, List.drop_drop, ih, Branch.totalArity,
        argumentBlock_add, List.map_append]

theorem Intent.operands_bindRoot (intent : Intent) (arguments : List Json) :
    (intent.bindRoot arguments).operands =
      (intent.consumed arguments).map Operand.ofArgument := by
  have bound := operands_bindBranches intent.tree arguments 0
  rw [List.drop_zero] at bound
  rw [consumed_eq_argumentBlock, totalArity, ← bound, bindRoot]
  split
  · rename_i noBranch
    rw [noBranch]
    exact Qualifier.operands_group _ []
  · exact operands_collapse .or _

theorem map_toArgument_ofArgument (arguments : List Json) :
    (arguments.map Operand.ofArgument).map Operand.toArgument = arguments := by
  induction arguments with
  | nil => rfl
  | cons argument rest ih =>
      rw [List.map_cons, List.map_cons, Operand.toArgument_ofArgument, ih]

theorem Intent.isDeferred_consumed_iff (intent : Intent) (arguments : List Json)
    (position : Nat) :
    isDeferredOperand ((intent.consumed arguments).map Operand.ofArgument)[position]? = true ↔
      position < intent.totalArity ∧ ∃ source, arguments[position]? =
        some (.object [(Operand.expressionKey, .string source)]) := by
  rw [List.getElem?_map, consumed_eq_argumentBlock, getElem?_argumentBlock, Nat.zero_add]
  by_cases within : position < intent.totalArity
  · rw [if_pos within, and_iff_right within]
    cases supplied : arguments[position]? with
    | none => simp [isDeferredOperand, Operand.ofArgument, Operand.isDeferred]
    | some argument =>
        have deferred := Operand.isDeferred_ofArgument_iff argument
        simpa [isDeferredOperand] using deferred
  · rw [if_neg within]
    simp [isDeferredOperand, within]

/-! ### What is bound depends on nothing else -/

section

variable {left right : List Json} {start : Nat}

theorem bindParts_congr {parts : List Part}
    (same : argumentBlock left start (Part.totalArity parts) =
      argumentBlock right start (Part.totalArity parts)) :
    bindParts parts (left.drop start) = bindParts parts (right.drop start) := by
  induction parts generalizing start with
  | nil => rfl
  | cons part rest ih =>
      rw [Part.totalArity, argumentBlock_add, argumentBlock_add] at same
      obtain ⟨sameBlock, sameRest⟩ := List.append_inj same (by simp only [length_argumentBlock])
      rw [bindParts, bindParts, part.bind_drop, part.bind_drop, sameBlock, List.drop_drop,
        List.drop_drop, ih sameRest]

theorem bindBranches_congr {tree : List Branch}
    (same : argumentBlock left start (Branch.totalArity tree) =
      argumentBlock right start (Branch.totalArity tree)) :
    bindBranches tree (left.drop start) = bindBranches tree (right.drop start) := by
  induction tree generalizing start with
  | nil => rfl
  | cons branch rest ih =>
      rw [Branch.totalArity, argumentBlock_add, argumentBlock_add] at same
      obtain ⟨sameBlock, sameRest⟩ := List.append_inj same (by simp only [length_argumentBlock])
      rw [bindBranches_cons, bindBranches_cons, bindParts_congr sameBlock, List.drop_drop,
        List.drop_drop, ih sameRest]

end

theorem Intent.bindRoot_eq_iff (intent : Intent) (left right : List Json) :
    intent.bindRoot left = intent.bindRoot right ↔
      intent.consumed left = intent.consumed right := by
  constructor
  · intro same
    have operands := congrArg Qualifier.operands same
    rw [intent.operands_bindRoot, intent.operands_bindRoot] at operands
    have shown := congrArg (List.map Operand.toArgument) operands
    rw [map_toArgument_ofArgument, map_toArgument_ofArgument] at shown
    exact shown
  · intro same
    rw [consumed_eq_argumentBlock, consumed_eq_argumentBlock] at same
    have branches := bindBranches_congr same
    rw [List.drop_zero, List.drop_zero] at branches
    unfold bindRoot
    rw [branches]

/-- Read back, the operands are the consumed arguments. They are deferred just where the argument is
an expression, and any arguments with the same ones in front are bound to the same criteria. -/
theorem bound_operands_show_arguments (intent : Intent) (arguments : Arguments) :
    let root := (intent.bind arguments).criteria.root
    root.operands.map Operand.toArgument =
        arguments.values.take intent.totalArity ++
          List.replicate (intent.totalArity - arguments.values.length) .null ∧
    (∀ position, isDeferredOperand root.operands[position]? = true ↔
      position < intent.totalArity ∧ ∃ source, arguments.values[position]? =
        some (.object [(Operand.expressionKey, .string source)])) ∧
    ∀ other : Arguments, (intent.bind other).criteria = (intent.bind arguments).criteria ↔
      intent.consumed other.values = intent.consumed arguments.values := by
  intro root
  have operands : root.operands = (intent.consumed arguments.values).map Operand.ofArgument :=
    intent.operands_bindRoot arguments.values
  refine ⟨?_, ?_, ?_⟩
  · rw [operands, map_toArgument_ofArgument]
    rfl
  · intro position
    rw [operands, intent.isDeferred_consumed_iff]
  · intro other
    rw [← intent.bindRoot_eq_iff]
    constructor
    · intro same
      exact congrArg Criteria.root same
    · intro same
      exact congrArg Criteria.mk same

-- Only the first argument is an expression; the others have another key besides, or no text.
example :
    let intent := Intent.ofParts [⟨"owner", .equal⟩, ⟨"age", .between⟩]
    let owner := Json.object [(Operand.expressionKey, .string "#owner")]
    let low := Json.object [(Operand.expressionKey, .string "#low"), ("unit", .string "year")]
    let high := Json.object [(Operand.expressionKey, .ofNat 30)]
    (intent.bindRoot [owner, low, high, .null]).operands.map Operand.isDeferred =
      [true, false, false] := by decide

end KeyedQuery
