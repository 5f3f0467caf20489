import KeyedQuery.Proofs.ArgumentBlocks

/-!
The form of bound criteria.

Whatever an intent asks for, what it is bound to is in disjunctive normal form: a group of clauses
of which one has to hold, or a single clause. A clause is a leaf, or a group of leaves that all have to
hold. Every leaf has a field and the operands that its operator takes, and no group has a single
member. Only an intent without any parts is bound to an empty group.
-/

set_option autoImplicit false

namespace KeyedQuery

/-! ### Clauses -/

/-- The condition has a field and as many operands as its operator takes, the first one first. -/
structure Condition.Filled (condition : Condition) : Prop where
  named : condition.field.isSome = true
  count : condition.operands.length = condition.operator.arity
  inOrder : condition.InOrder

namespace Qualifier

inductive IsClause : Qualifier → Prop where
  | leaf {condition : Condition} (filled : condition.Filled) : IsClause (.leaf condition)
  | allOf {conditions : List Condition} (several : 2 ≤ conditions.length)
      (filled : ∀ condition ∈ conditions, condition.Filled) :
      IsClause (.group ⟨none, .and, none, none⟩ (conditions.map .leaf))

inductive IsNormal : Qualifier → Prop where
  | nothing : IsNormal (.group ⟨none, .and, none, none⟩ [])
  | clause {qualifier : Qualifier} (isClause : qualifier.IsClause) : IsNormal qualifier
  | anyOf {clauses : List Qualifier} (several : 2 ≤ clauses.length)
      (areClauses : ∀ clause ∈ clauses, clause.IsClause) :
      IsNormal (.group ⟨none, .or, none, none⟩ clauses)

end Qualifier

/-! ### What is bound is normal -/

theorem Part.filled_conditionOver (part : Part) (arguments : List Json) (start : Nat) :
    (part.conditionOver (argumentBlock arguments start part.arity)).Filled where
  named := rfl
  count := by
    rw [part.operands_conditionOver, List.length_map, length_argumentBlock]
    rfl
  inOrder := by
    intro noFirst
    have empty : part.arity ≤ 0 := by
      have missing := List.getElem?_eq_none_iff.mp (Option.map_eq_none_iff.mp noFirst)
      rwa [length_argumentBlock] at missing
    apply Option.map_eq_none_iff.mpr
    apply List.getElem?_eq_none
    rw [length_argumentBlock]
    exact Nat.le_trans empty (Nat.zero_le 1)

theorem exists_conditions_bindParts (parts : List Part) (arguments : List Json) :
    ∃ conditions : List Condition, bindParts parts arguments = conditions.map .leaf ∧
      conditions.length = parts.length ∧ ∀ condition ∈ conditions, condition.Filled := by
  induction parts generalizing arguments with
  | nil => exact ⟨[], rfl, rfl, fun _ member => nomatch member⟩
  | cons part rest ih =>
      obtain ⟨conditions, areLeaves, sameLength, filled⟩ := ih (arguments.drop part.arity)
      have isLeaf := part.bind_drop arguments 0
      rw [List.drop_zero] at isLeaf
      refine ⟨_ :: conditions, ?_, ?_, List.forall_mem_cons.mpr
        ⟨part.filled_conditionOver arguments 0, filled⟩⟩
      · rw [bindParts, isLeaf, areLeaves, List.map_cons]
      · rw [List.length_cons, List.length_cons, sameLength]

theorem isClause_collapse {conditions : List Condition} (present : conditions ≠ [])
    (filled : ∀ condition ∈ conditions, condition.Filled) :
    (collapse .and (conditions.map .leaf)).IsClause := by
  match conditions with
  | [] => exact absurd rfl present
  | [only] => exact .leaf (filled only List.mem_cons_self)
  | first :: second :: rest =>
      have several : 2 ≤ (first :: second :: rest).length := Nat.le_add_left 2 rest.length
      exact .allOf several filled

theorem isClause_of_mem_bindBranches {tree : List Branch} {arguments : List Json}
    {qualifier : Qualifier} (member : qualifier ∈ bindBranches tree arguments) :
    qualifier.IsClause := by
  obtain ⟨before, branch, after, _, hasParts, isBound⟩ := (mem_bindBranches_iff _ _ _).mp member
  obtain ⟨conditions, areLeaves, sameLength, filled⟩ :=
    exists_conditions_bindParts branch.parts (arguments.drop (Branch.totalArity before))
  have present : conditions ≠ [] := by
    intro nothing
    rw [nothing] at sameLength
    exact hasParts (List.eq_nil_of_length_eq_zero sameLength.symm)
  rw [isBound, areLeaves]
  exact isClause_collapse present filled

theorem Intent.isNormal_bindRoot (intent : Intent) (arguments : List Json) :
    (intent.bindRoot arguments).IsNormal := by
  have areClauses : ∀ clause ∈ bindBranches intent.tree arguments, clause.IsClause :=
    fun _ member => isClause_of_mem_bindBranches member
  unfold bindRoot
  match bindBranches intent.tree arguments, areClauses with
  | [], _ => exact .nothing
  | [only], areClauses => exact .clause (areClauses only List.mem_cons_self)
  | first :: second :: rest, areClauses =>
      exact .anyOf (Nat.le_add_left 2 rest.length) areClauses

/-! ### Groups and leaves at any depth -/

namespace Qualifier

/-- The qualifier itself, and what is inside it at any depth. -/
inductive Contains : Qualifier → Qualifier → Prop where
  | itself (qualifier : Qualifier) : Contains qualifier qualifier
  | inside {head : Condition} {nested : List Qualifier} {member inner : Qualifier}
      (isMember : member ∈ nested) (contains : Contains member inner) :
      Contains (.group head nested) inner

mutual

/-- How many groups lie inside one another, at most. -/
def groupLevels : Qualifier → Nat
  | .leaf _ => 0
  | .group _ nested => groupLevelsOf nested + 1

def groupLevelsOf : List Qualifier → Nat
  | [] => 0
  | qualifier :: rest => max (groupLevels qualifier) (groupLevelsOf rest)

end

/-- Every group joins conditions and has nothing else of its own, every leaf is filled, and groups
are no deeper and no more than it takes. -/
structure WellFormed (root : Qualifier) : Prop where
  groups : ∀ head nested, root.Contains (.group head nested) →
    (head.operator = .and ∨ head.operator = .or) ∧ head.field = none ∧ head.operands = []
  leaves : ∀ condition, root.Contains (.leaf condition) → condition.Filled
  levels : root.groupLevels ≤ 2
  nestedGroups : ∀ outer members head nested, root.Contains (.group outer members) →
    .group head nested ∈ members →
      outer.operator = .or ∧ head.operator = .and ∧ ∀ inner ∈ nested, inner.isGroup = false
  noSingleMember : ∀ head only, ¬ root.Contains (.group head [only])
  emptyAtRoot : ∀ head, root.Contains (.group head []) →
    root = .group head [] ∧ head.operator = .and

/-! ### Normal trees are well formed -/

theorem groupLevelsOf_le {qualifiers : List Qualifier} {levels : Nat}
    (each : ∀ qualifier ∈ qualifiers, qualifier.groupLevels ≤ levels) :
    groupLevelsOf qualifiers ≤ levels := by
  induction qualifiers with
  | nil => exact Nat.zero_le levels
  | cons qualifier rest ih =>
      obtain ⟨first, others⟩ := List.forall_mem_cons.mp each
      exact Nat.max_le.mpr ⟨first, ih others⟩

namespace IsClause

variable {head : Condition} {nested : List Qualifier} {clause inner : Qualifier}

theorem filled {condition : Condition} (isClause : (Qualifier.leaf condition).IsClause) :
    condition.Filled := by
  cases isClause with
  | leaf filled => exact filled

/-- A clause that is a group has several leaves and nothing else. -/
theorem of_group (isClause : (group head nested).IsClause) :
    head = ⟨none, .and, none, none⟩ ∧ 2 ≤ nested.length ∧
      ∀ member ∈ nested, ∃ condition, member = .leaf condition ∧ condition.Filled := by
  cases isClause with
  | @allOf conditions several filled =>
      refine ⟨rfl, ?_, ?_⟩
      · rw [List.length_map]
        exact several
      · rw [List.forall_mem_map]
        exact fun condition member => ⟨condition, rfl, filled condition member⟩

theorem of_contains (isClause : clause.IsClause) (contains : clause.Contains inner) :
    inner.IsClause := by
  cases contains with
  | itself => exact isClause
  | inside isMember contains =>
      obtain ⟨_, _, areLeaves⟩ := isClause.of_group
      obtain ⟨condition, isLeaf, filled⟩ := areLeaves _ isMember
      subst isLeaf
      cases contains with
      | itself => exact .leaf filled

theorem groupLevels_le (isClause : clause.IsClause) : clause.groupLevels ≤ 1 := by
  cases isClause with
  | leaf filled => exact Nat.zero_le 1
  | allOf several filled =>
      apply Nat.succ_le_succ
      apply groupLevelsOf_le
      rw [List.forall_mem_map]
      exact fun _ _ => Nat.le_refl 0

end IsClause

namespace IsNormal

variable {head : Condition} {nested : List Qualifier} {root inner : Qualifier}

theorem of_group (isNormal : (group head nested).IsNormal) :
    (head = ⟨none, .and, none, none⟩ ∧ nested = []) ∨ (group head nested).IsClause ∨
      head = ⟨none, .or, none, none⟩ ∧ 2 ≤ nested.length ∧
        ∀ member ∈ nested, member.IsClause := by
  cases isNormal with
  | nothing => exact .inl ⟨rfl, rfl⟩
  | clause isClause => exact .inr (.inl isClause)
  | anyOf several areClauses => exact .inr (.inr ⟨rfl, several, areClauses⟩)

/-- Inside a normal tree there are only clauses. -/
theorem of_contains (isNormal : root.IsNormal) (contains : root.Contains inner) :
    inner = root ∨ inner.IsClause := by
  cases contains with
  | itself => exact .inl rfl
  | inside isMember contains =>
      right
      rcases isNormal.of_group with ⟨_, empty⟩ | isClause | ⟨_, _, areClauses⟩
      · subst empty
        cases isMember
      · exact isClause.of_contains (.inside isMember contains)
      · exact (areClauses _ isMember).of_contains contains

theorem contained (isNormal : root.IsNormal) (contains : root.Contains inner) :
    inner.IsNormal := by
  rcases isNormal.of_contains contains with isRoot | isClause
  · rw [isRoot]
    exact isNormal
  · exact .clause isClause

theorem groupLevels_le (isNormal : root.IsNormal) : root.groupLevels ≤ 2 := by
  cases isNormal with
  | nothing => decide
  | clause isClause => exact Nat.le_succ_of_le isClause.groupLevels_le
  | anyOf several areClauses =>
      apply Nat.succ_le_succ
      apply groupLevelsOf_le
      exact fun clause member => (areClauses clause member).groupLevels_le

theorem head_of_group (isNormal : (group head nested).IsNormal) :
    (head.operator = .and ∨ head.operator = .or) ∧ head.field = none ∧ head.operands = [] := by
  rcases isNormal.of_group with ⟨isAnd, _⟩ | isClause | ⟨isOr, _⟩
  · rw [isAnd]
    exact ⟨.inl rfl, rfl, rfl⟩
  · rw [isClause.of_group.1]
    exact ⟨.inl rfl, rfl, rfl⟩
  · rw [isOr]
    exact ⟨.inr rfl, rfl, rfl⟩

theorem length_ne_one (isNormal : (group head nested).IsNormal) : nested.length ≠ 1 := by
  rcases isNormal.of_group with ⟨_, empty⟩ | isClause | ⟨_, several, _⟩
  · rw [empty]
    decide
  · have several := isClause.of_group.2.1
    omega
  · omega

theorem operator_of_empty (isNormal : (group head []).IsNormal) : head.operator = .and := by
  rcases isNormal.of_group with ⟨isAnd, _⟩ | isClause | ⟨_, several, _⟩
  · rw [isAnd]
  · rw [isClause.of_group.1]
  · cases several

theorem of_nested_group {outer : Condition} {members : List Qualifier}
    (isNormal : (group outer members).IsNormal) (isMember : group head nested ∈ members) :
    outer.operator = .or ∧ head.operator = .and ∧ ∀ inner ∈ nested, inner.isGroup = false := by
  rcases isNormal.of_group with ⟨_, empty⟩ | isClause | ⟨isOr, _, areClauses⟩
  · rw [empty] at isMember
    cases isMember
  · obtain ⟨_, isLeaf, _⟩ := isClause.of_group.2.2 _ isMember
    cases isLeaf
  · obtain ⟨isAnd, _, areLeaves⟩ := (areClauses _ isMember).of_group
    rw [isOr, isAnd]
    refine ⟨rfl, rfl, ?_⟩
    intro inner innerMember
    obtain ⟨condition, isLeaf, _⟩ := areLeaves inner innerMember
    rw [isLeaf]
    rfl

theorem wellFormed (isNormal : root.IsNormal) : root.WellFormed where
  groups _ _ contains := (isNormal.contained contains).head_of_group
  leaves condition contains := by
    rcases isNormal.of_contains contains with isRoot | isClause
    · subst isRoot
      cases isNormal with
      | clause isClause => exact isClause.filled
    · exact isClause.filled
  levels := isNormal.groupLevels_le
  nestedGroups _ _ _ _ contains isMember := (isNormal.contained contains).of_nested_group isMember
  noSingleMember _ _ contains := (isNormal.contained contains).length_ne_one rfl
  emptyAtRoot head contains := by
    refine ⟨?_, (isNormal.contained contains).operator_of_empty⟩
    rcases isNormal.of_contains contains with isRoot | isClause
    · exact isRoot.symm
    · cases isClause.of_group.2.1

end IsNormal

end Qualifier

/-! ### Intents without parts -/

theorem Intent.exists_empty_group_iff (intent : Intent) (arguments : List Json) :
    (∃ head, (intent.bindRoot arguments).Contains (.group head [])) ↔
      ∀ branch ∈ intent.tree, branch.parts = [] := by
  rw [← bindBranches_eq_nil_iff intent.tree arguments]
  have areClauses : ∀ clause ∈ bindBranches intent.tree arguments, clause.IsClause :=
    fun _ member => isClause_of_mem_bindBranches member
  constructor
  · rintro ⟨head, contains⟩
    have isEmpty := ((intent.isNormal_bindRoot arguments).wellFormed.emptyAtRoot head contains).1
    unfold bindRoot at isEmpty
    cases bound : bindBranches intent.tree arguments with
    | nil => rfl
    | cons first others =>
        rw [bound] at isEmpty areClauses
        cases others with
        | nil =>
            have isClause := areClauses first List.mem_cons_self
            change first = .group head [] at isEmpty
            rw [isEmpty] at isClause
            cases isClause.of_group.2.1
        | cons second rest => cases isEmpty
  · intro noBranch
    have isEmpty : intent.bindRoot arguments = .group ⟨none, .and, none, none⟩ [] := by
      unfold bindRoot
      rw [noBranch]
      rfl
    rw [isEmpty]
    exact ⟨_, .itself _⟩

/-- Everything that is bound is well formed, and an empty group stands for the intents without any
parts and for no others. -/
theorem bound_criteria_are_well_formed (intent : Intent) (arguments : Arguments) :
    let root := (intent.bind arguments).criteria.root
    root.WellFormed ∧
      ((∃ head, root.Contains (.group head [])) ↔ ∀ branch ∈ intent.tree, branch.parts = []) := by
  intro root
  constructor
  · exact (intent.isNormal_bindRoot arguments.values).wellFormed
  · exact intent.exists_empty_group_iff arguments.values

end KeyedQuery
