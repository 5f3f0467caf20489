import KeyedQuery.Proofs.Binding
import KeyedQuery.Proofs.KeyRead

/-!
The argument that a method reads as its key.

A method whose intent is bound in the usual way reads by key exactly when its only branch with
parts has one part on the key field and that part is bound to a value. The key is the argument
behind those of the parts before it, and no other argument.
-/

set_option autoImplicit false

namespace KeyedQuery

/-- The intent fixes the key to the argument at the position: one branch has parts, one of them is
on the key field, and the arguments of the parts before it reach up to the position. -/
def Intent.NamesKey (intent : Intent) (keyField : String) (arguments : List Json)
    (position : Nat) : Prop :=
  ∃ branch earlier part later,
    intent.filledBranches = [branch] ∧ branch.parts = earlier ++ part :: later ∧
    part.property = keyField ∧ (∀ other ∈ earlier ++ later, other.property ≠ keyField) ∧
    (part.operator = .equal ∨ part.operator = .among) ∧
    position = Part.totalArity earlier ∧
    ∀ source, arguments[position]? ≠ some (.object [(Operand.expressionKey, .string source)])

/-! ### One branch -/

theorem collapse_and_of_leaves {qualifiers : List Qualifier}
    (leaves : ∀ qualifier ∈ qualifiers, ∃ condition, qualifier = .leaf condition) :
    (Criteria.mk (collapse .and qualifiers)).isConjunction = true ∧
      (Criteria.mk (collapse .and qualifiers)).qualifierList = qualifiers := by
  cases qualifiers with
  | nil => exact ⟨rfl, rfl⟩
  | cons first rest =>
      cases rest with
      | nil =>
          obtain ⟨condition, isLeaf⟩ := leaves first List.mem_cons_self
          subst isLeaf
          exact ⟨rfl, rfl⟩
      | cons second others => exact ⟨rfl, rfl⟩

theorem Part.value1_bind {part : Part}
    (compares : part.operator = .equal ∨ part.operator = .among) (arguments : List Json) :
    (part.bind arguments).value1 = some (operandAt arguments 0) := by
  have single : part.arity = 1 := by
    unfold Part.arity
    rcases compares with isEqual | isAmong
    · rw [isEqual]; rfl
    · rw [isAmong]; rfl
  simp [Part.bind, Qualifier.value1, Qualifier.condition, single]

theorem operandAt_eq_literal_iff (arguments : List Json) (position : Nat) (value : Json) :
    operandAt arguments position = .literal value ↔
      arguments[position]?.getD .null = value ∧
        ∀ source, arguments[position]? ≠
          some (.object [(Operand.expressionKey, .string source)]) := by
  unfold operandAt
  rw [Operand.ofArgument_eq_literal_iff]
  cases arguments[position]? with
  | none => simp
  | some argument => simp

theorem keySplit_bindParts_iff (keyField : String) (parts : List Part) (arguments : List Json)
    (value : Json) :
    (∃ before condition after,
      KeySplit keyField (bindParts parts arguments) before condition value after) ↔
    ∃ earlier part later,
      parts = earlier ++ part :: later ∧ part.property = keyField ∧
      (∀ other ∈ earlier ++ later, other.property ≠ keyField) ∧
      (part.operator = .equal ∨ part.operator = .among) ∧
      operandAt arguments (Part.totalArity earlier) = .literal value := by
  constructor
  · rintro ⟨before, condition, after, split⟩
    obtain ⟨earlier, part, later, isSplit, isBefore, isPart, isAfter⟩ :=
      bindParts_eq_append_cons split.listed
    have onKey : part.property = keyField :=
      (part.isOn_bind_iff _ keyField).mp (isPart ▸ split.lone.isOn_leaf)
    have compares : part.operator = .equal ∨ part.operator = .among := by
      have sameOperator : condition.operator = part.operator :=
        congrArg Qualifier.operator isPart
      exact sameOperator ▸ split.compares
    refine ⟨earlier, part, later, isSplit, onKey, ?_, compares, ?_⟩
    · have elsewhere := List.forall_mem_append.mp split.elsewhere
      rw [isBefore, isAfter, forall_isOn_bindParts_iff, forall_isOn_bindParts_iff] at elsewhere
      exact List.forall_mem_append.mpr elsewhere
    · have bound := part.value1_bind compares (arguments.drop (Part.totalArity earlier))
      rw [← isPart, operandAt_drop, Nat.add_zero] at bound
      exact Option.some.inj (bound.symm.trans split.bound)
  · rintro ⟨earlier, part, later, isSplit, onKey, elsewhere, compares, isLiteral⟩
    let rest := arguments.drop (Part.totalArity earlier)
    refine ⟨bindParts earlier arguments, (part.bind rest).condition,
      bindParts later (rest.drop part.arity), ?_, ?_, compares, ?_, ?_⟩
    · rw [isSplit, bindParts_append]
      rfl
    · exact congrArg some onKey
    · have bound := part.value1_bind compares rest
      rw [operandAt_drop, Nat.add_zero, isLiteral] at bound
      exact bound
    · have others := List.forall_mem_append.mp elsewhere
      rw [← forall_isOn_bindParts_iff earlier arguments,
        ← forall_isOn_bindParts_iff later (rest.drop part.arity)] at others
      exact List.forall_mem_append.mpr others

/-! ### All branches -/

theorem Intent.keySplit_bindRoot_iff (intent : Intent) (keyField : String)
    (arguments : List Json) (value : Json) :
    ((Criteria.mk (intent.bindRoot arguments)).isConjunction = true ∧
      ∃ before condition after,
        KeySplit keyField (Criteria.mk (intent.bindRoot arguments)).qualifierList before condition
          value after) ↔
    ∃ position, intent.NamesKey keyField arguments position ∧
      arguments[position]?.getD .null = value := by
  rcases intent.bindRoot_cases arguments with
    ⟨noBranch, isRoot⟩ | ⟨branch, oneBranch, isRoot⟩ |
      ⟨first, second, rest, members, moreBranches, isRoot⟩
  · rw [isRoot]
    constructor
    · rintro ⟨_, before, condition, after, split⟩
      have listed : [] = before ++ .leaf condition :: after := split.listed
      simp at listed
    · rintro ⟨position, ⟨branch, _, _, _, oneBranch, _⟩, _⟩
      rw [noBranch] at oneBranch
      cases oneBranch
  · have leaves : ∀ qualifier ∈ bindParts branch.parts arguments,
        ∃ condition, qualifier = .leaf condition := fun _ => leaf_of_mem_bindParts
    obtain ⟨conjunction, listed⟩ := collapse_and_of_leaves leaves
    rw [isRoot, listed, and_iff_right conjunction, keySplit_bindParts_iff]
    constructor
    · rintro ⟨earlier, part, later, isSplit, onKey, elsewhere, compares, isLiteral⟩
      obtain ⟨isValue, notExpression⟩ := (operandAt_eq_literal_iff _ _ _).mp isLiteral
      exact ⟨_, ⟨branch, earlier, part, later, oneBranch, isSplit, onKey, elsewhere, compares, rfl,
        notExpression⟩, isValue⟩
    · rintro ⟨position, ⟨other, earlier, part, later, isOther, isSplit, onKey, elsewhere, compares,
        atPosition, notExpression⟩, isValue⟩
      rw [oneBranch] at isOther
      cases isOther
      subst atPosition
      exact ⟨earlier, part, later, isSplit, onKey, elsewhere, compares,
        (operandAt_eq_literal_iff _ _ _).mpr ⟨isValue, notExpression⟩⟩
  · rw [isRoot]
    constructor
    · rintro ⟨conjunction, _⟩
      cases conjunction
    · rintro ⟨position, ⟨branch, _, _, _, oneBranch, _⟩, _⟩
      rw [moreBranches] at oneBranch
      cases oneBranch

/-- A method with the usual binding reads by key exactly when its intent names an argument as the
key, and then it reads that argument. An argument that is not there counts as null and is refused. -/
theorem named_argument_is_key (registration : Registration) (parameters : List Json)
    (arguments : Arguments) (store : Store) (usual : registration.binder = Intent.bind) :
    let plan := (registration.prepare parameters arguments).value
    let source := registration.method.entity
    let target := (registration.targetType arguments).value
    let path := registration.accessPath plan
    let filters := plan.criteria.remainingFilters registration.keyField path
    let outcome := registration.execute parameters arguments store
    let named := registration.intent.NamesKey registration.keyField arguments.values
    (path.readsByKey = true ↔ ∃ position, named position) ∧
    ∀ position, named position →
      keyValue registration.keyField plan.criteria.qualifierList =
        .ok (arguments.values[position]?.getD .null) ∧
      outcome.ReadsKey store source target filters (arguments.values[position]?.getD .null) ∧
      (arguments.values[position]? = none →
        outcome.calls = [] ∧ outcome.value = .error .nullKey) := by
  intro plan source target path filters outcome named
  have bound : plan.criteria = ⟨registration.intent.bindRoot arguments.values⟩ :=
    registration.criteria_prepare_of_usual parameters arguments usual
  have isKey (value : Json) := registration.intent.keySplit_bindRoot_iff registration.keyField
    arguments.values value
  rw [← bound] at isKey
  constructor
  · constructor
    · intro reads
      obtain ⟨conjunction, before, condition, value, after, split⟩ :=
        (plan.criteria.readsByKey_accessPath_iff registration.keyField).mp reads
      obtain ⟨position, isNamed, _⟩ :=
        (isKey value).mp ⟨conjunction, before, condition, after, split⟩
      exact ⟨position, isNamed⟩
    · rintro ⟨position, isNamed⟩
      obtain ⟨conjunction, before, condition, after, split⟩ :=
        (isKey _).mpr ⟨position, isNamed, rfl⟩
      exact split.readsByKey conjunction
  · intro position isNamed
    obtain ⟨conjunction, before, condition, after, split⟩ :=
      (isKey _).mpr ⟨position, isNamed, rfl⟩
    have remaining : filters = before ++ after := split.remainingFilters_eq conjunction
    have readsKey : outcome.ReadsKey store source target filters
        (arguments.values[position]?.getD .null) := by
      rw [remaining]
      exact split.readsKey_execute conjunction store
    refine ⟨split.keyValue_eq, readsKey, ?_⟩
    intro missing
    rw [missing] at readsKey
    exact readsKey.of_null

/-- Two arguments belong to the part in front of the key, and a branch without parts takes none. The
third argument is the key, and with two arguments only there is none. -/
theorem argument_behind_range_is_key :
    let registration :=
      Registration.ofIntent (.ofTree [⟨[]⟩, ⟨[⟨"age", .between⟩, ⟨"id", .equal⟩]⟩])
    let range : List Json := [.ofNat 18, .ofNat 30]
    let whole : List Json := [.ofNat 18, .ofNat 30, .string "p1"]
    let person : RecordType := ⟨"Person"⟩
    registration.binder = Intent.bind ∧
      registration.intent.NamesKey "id" whole 2 ∧ registration.intent.NamesKey "id" range 2 ∧
      ∀ store : Store,
        (registration.execute [] (.ofValues whole) store).calls =
          [.readOne (.string "p1") person person [.between "age" (.ofNat 18) (.ofNat 30)]] ∧
        (registration.execute [] (.ofValues range) store).calls = [] ∧
        (registration.execute [] (.ofValues range) store).value = .error .nullKey := by
  intro registration range whole person
  have named (arguments : List Json) (bound : ∀ source,
      arguments[2]? ≠ some (.object [(Operand.expressionKey, .string source)])) :
      registration.intent.NamesKey "id" arguments 2 := by
    refine ⟨⟨[⟨"age", .between⟩, ⟨"id", .equal⟩]⟩, [⟨"age", .between⟩], ⟨"id", .equal⟩, [], rfl, rfl,
      rfl, ?_, Or.inl rfl, rfl, bound⟩
    decide
  have third : registration.intent.NamesKey "id" whole 2 := by
    apply named
    intro source isExpression
    cases isExpression
  have missing : registration.intent.NamesKey "id" range 2 := by
    apply named
    intro source isExpression
    cases isExpression
  refine ⟨rfl, third, missing, ?_⟩
  intro store
  have read := (named_argument_is_key registration [] (.ofValues whole) store rfl).2 2 third
  have refused := (named_argument_is_key registration [] (.ofValues range) store rfl).2 2 missing
  refine ⟨?_, refused.2.2 rfl⟩
  cases read.2.1 with
  | single _ _ called => exact called

end KeyedQuery
