import KeyedQuery.BoundQuery

/-!
Where the parts of an intent find their arguments.

The leaf of a part takes the arguments behind those of the parts before it. Branches without parts
take none and leave no trace, so the tree that is bound depends on the other branches alone.
-/

set_option autoImplicit false

namespace KeyedQuery

/-! ### Operands -/

theorem Operand.ofArgument_eq_literal_iff (argument value : Json) :
    Operand.ofArgument argument = .literal value ↔
      argument = value ∧ ∀ source, argument ≠ .object [(Operand.expressionKey, .string source)] := by
  constructor
  · intro isLiteral
    have kept := Operand.toArgument_ofArgument argument
    rw [isLiteral] at kept
    refine ⟨kept.symm, ?_⟩
    intro source isExpression
    rw [isExpression] at isLiteral
    cases isLiteral
  · rintro ⟨same, notExpression⟩
    subst same
    unfold Operand.ofArgument
    split
    · rename_i key source
      split
      · rename_i isKey
        exact absurd (by rw [isKey]) (notExpression source)
      · rfl
    · rfl

theorem Operand.isDeferred_ofArgument_iff (argument : Json) :
    (Operand.ofArgument argument).isDeferred = true ↔
      ∃ source, argument = .object [(Operand.expressionKey, .string source)] := by
  constructor
  · intro deferred
    cases bound : Operand.ofArgument argument with
    | literal value =>
        rw [bound] at deferred
        cases deferred
    | expression source =>
        have kept := Operand.toArgument_ofArgument argument
        rw [bound] at kept
        exact ⟨source, kept.symm⟩
  · rintro ⟨source, isExpression⟩
    subst isExpression
    rfl

theorem operandAt_drop (arguments : List Json) (count position : Nat) :
    operandAt (arguments.drop count) position = operandAt arguments (count + position) := by
  unfold operandAt
  rw [List.getElem?_drop]

/-! ### Parts -/

theorem Part.isOn_bind_iff (part : Part) (arguments : List Json) (name : String) :
    (part.bind arguments).isOn name = true ↔ part.property = name := by
  simp [Part.bind, Qualifier.isOn]

theorem bindParts_append (parts more : List Part) (arguments : List Json) :
    bindParts (parts ++ more) arguments =
      bindParts parts arguments ++ bindParts more (arguments.drop (Part.totalArity parts)) := by
  induction parts generalizing arguments with
  | nil => simp [bindParts, Part.totalArity]
  | cons part rest ih =>
      simp only [List.cons_append, bindParts, Part.totalArity]
      rw [ih, List.drop_drop]

/-- Bound parts split only where the parts themselves split. -/
theorem bindParts_eq_append_cons {parts : List Part} {arguments : List Json}
    {before after : List Qualifier} {qualifier : Qualifier}
    (bound : bindParts parts arguments = before ++ qualifier :: after) :
    ∃ earlier part later, parts = earlier ++ part :: later ∧
      before = bindParts earlier arguments ∧
      qualifier = part.bind (arguments.drop (Part.totalArity earlier)) ∧
      after = bindParts later (arguments.drop (Part.totalArity earlier + part.arity)) := by
  induction before generalizing parts arguments with
  | nil =>
      cases parts with
      | nil => cases bound
      | cons part rest =>
          simp only [bindParts, List.nil_append, List.cons.injEq] at bound
          refine ⟨[], part, rest, rfl, rfl, ?_, ?_⟩
          · simpa [Part.totalArity] using bound.1.symm
          · simpa [Part.totalArity] using bound.2.symm
  | cons head tail ih =>
      cases parts with
      | nil => cases bound
      | cons first rest =>
          simp only [bindParts, List.cons_append, List.cons.injEq] at bound
          obtain ⟨earlier, part, later, isSplit, isBefore, isPart, isAfter⟩ := ih bound.2
          refine ⟨first :: earlier, part, later, ?_, ?_, ?_, ?_⟩
          · rw [isSplit, List.cons_append]
          · rw [bindParts, ← isBefore, bound.1]
          · rw [isPart, List.drop_drop, Part.totalArity]
          · rw [isAfter, List.drop_drop, Part.totalArity, Nat.add_assoc]

theorem forall_isOn_bindParts_iff (parts : List Part) (arguments : List Json) (name : String) :
    (∀ qualifier ∈ bindParts parts arguments, qualifier.isOn name = false) ↔
      ∀ part ∈ parts, part.property ≠ name := by
  induction parts generalizing arguments with
  | nil => simp [bindParts]
  | cons part rest ih =>
      rw [bindParts, List.forall_mem_cons, List.forall_mem_cons, ih, Bool.eq_false_iff, Ne,
        Part.isOn_bind_iff]

theorem leaf_of_mem_bindParts {parts : List Part} {arguments : List Json} {qualifier : Qualifier}
    (member : qualifier ∈ bindParts parts arguments) : ∃ condition, qualifier = .leaf condition := by
  induction parts generalizing arguments with
  | nil => cases member
  | cons part rest ih =>
      rcases List.mem_cons.mp member with isFirst | inRest
      · exact ⟨_, isFirst⟩
      · exact ih inRest

/-! ### Branches -/

def Intent.filledBranches (intent : Intent) : List Branch :=
  intent.tree.filter fun branch => !branch.parts.isEmpty

theorem bindBranches_cons_of_filled {branch : Branch} (filled : branch.parts.isEmpty = false)
    (rest : List Branch) (arguments : List Json) :
    bindBranches (branch :: rest) arguments =
      collapse .and (bindParts branch.parts arguments) ::
        bindBranches rest (arguments.drop branch.arity) := by
  simp [bindBranches, filled]

theorem bindBranches_filter (tree : List Branch) (arguments : List Json) :
    bindBranches (tree.filter fun branch => !branch.parts.isEmpty) arguments =
      bindBranches tree arguments := by
  induction tree generalizing arguments with
  | nil => rfl
  | cons branch rest ih =>
      cases empty : branch.parts.isEmpty with
      | true =>
          have noArity : branch.arity = 0 := by
            rw [Branch.arity, List.isEmpty_iff.mp empty, Part.totalArity]
          rw [List.filter_cons_of_neg (by simp [empty]), ih, bindBranches]
          simp [empty, noArity]
      | false =>
          rw [List.filter_cons_of_pos (by simp [empty]), bindBranches_cons_of_filled empty,
            bindBranches_cons_of_filled empty, ih]

/-- The tree is a conjunction of parts exactly when one branch has parts. -/
theorem Intent.bindRoot_cases (intent : Intent) (arguments : List Json) :
    (intent.filledBranches = [] ∧ intent.bindRoot arguments = .allOf []) ∨
    (∃ branch, intent.filledBranches = [branch] ∧
      intent.bindRoot arguments = collapse .and (bindParts branch.parts arguments)) ∨
    ∃ first second rest members, intent.filledBranches = first :: second :: rest ∧
      intent.bindRoot arguments = .anyOf members := by
  have filled : ∀ branch ∈ intent.filledBranches, branch.parts.isEmpty = false := by
    intro branch member
    simpa using (List.mem_filter.mp member).2
  have kept : bindBranches intent.filledBranches arguments =
      bindBranches intent.tree arguments := bindBranches_filter intent.tree arguments
  unfold bindRoot
  rw [← kept]
  cases listed : intent.filledBranches with
  | nil => exact Or.inl ⟨rfl, rfl⟩
  | cons first others =>
      have firstFilled : first.parts.isEmpty = false :=
        filled first (by rw [listed]; exact List.mem_cons_self)
      cases others with
      | nil =>
          refine Or.inr (Or.inl ⟨first, rfl, ?_⟩)
          rw [bindBranches_cons_of_filled firstFilled]
          rfl
      | cons second rest =>
          have secondFilled : second.parts.isEmpty = false :=
            filled second (by rw [listed]; exact List.mem_cons_of_mem _ List.mem_cons_self)
          rw [bindBranches_cons_of_filled firstFilled, bindBranches_cons_of_filled secondFilled]
          exact Or.inr (Or.inr ⟨first, second, rest, _, rfl, rfl⟩)

end KeyedQuery
