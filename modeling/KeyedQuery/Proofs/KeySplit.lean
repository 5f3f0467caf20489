import KeyedQuery.Invocation

/-!
The condition that fixes the key, among the other conditions.

Records are read by key exactly when the criteria are a conjunction whose qualifiers split around
one leaf on the key field that compares it with a value. The path, the key and the filters that are
left to the store are all read off that split: nothing else of the criteria plays a part.
-/

set_option autoImplicit false

namespace KeyedQuery

/-- The list is `before`, a leaf that fixes the key to `value`, and `after`; no other qualifier in
it is on the key field. -/
structure KeySplit (keyField : String) (qualifiers before : List Qualifier)
    (condition : Condition) (value : Json) (after : List Qualifier) : Prop where
  listed : qualifiers = before ++ .leaf condition :: after
  onKey : condition.field = some keyField
  compares : condition.operator = .equal ∨ condition.operator = .among
  bound : condition.value1 = some (.literal value)
  elsewhere : ∀ other ∈ before ++ after, other.isOn keyField = false

/-! ### Conditions that fix the key -/

theorem Qualifier.isOn_iff (keyField : String) (qualifier : Qualifier) :
    qualifier.isOn keyField = true ↔
      ∃ condition, qualifier = .leaf condition ∧ condition.field = some keyField := by
  cases qualifier with
  | leaf condition => simp [isOn]
  | group head nested => simp [isOn]

theorem Operator.readsKey_iff (operator : Operator) :
    operator.readsKey = true ↔ operator = .equal ∨ operator = .among := by
  cases operator <;> simp [readsKey]

theorem Operand.literal?_eq_some_iff (operand : Operand) (value : Json) :
    operand.literal? = some value ↔ operand = .literal value := by
  cases operand with
  | literal bound => simp [literal?]
  | expression source => simp [literal?]

theorem Qualifier.fixesKey_iff (keyField : String) (qualifier : Qualifier) :
    qualifier.fixesKey keyField = true ↔
      ∃ condition value, qualifier = .leaf condition ∧ condition.field = some keyField ∧
        (condition.operator = .equal ∨ condition.operator = .among) ∧
        condition.value1 = some (.literal value) := by
  unfold fixesKey
  rw [Bool.and_eq_true, Bool.and_eq_true, isOn_iff, Operator.readsKey_iff, Option.isSome_iff_exists]
  constructor
  · rintro ⟨⟨⟨condition, isLeaf, onKey⟩, compares⟩, value, found⟩
    subst isLeaf
    obtain ⟨operand, present, isLiteral⟩ := Option.bind_eq_some_iff.mp found
    rw [Operand.literal?_eq_some_iff] at isLiteral
    subst isLiteral
    exact ⟨condition, value, rfl, onKey, compares, present⟩
  · rintro ⟨condition, value, isLeaf, onKey, compares, bound⟩
    subst isLeaf
    refine ⟨⟨⟨condition, rfl, onKey⟩, compares⟩, value, ?_⟩
    exact Option.bind_eq_some_iff.mpr ⟨.literal value, bound, rfl⟩

/-! ### One qualifier on the key field -/

/-- The list is `before`, a leaf on the key field, and `after`; no other qualifier in it is on the
key field. -/
structure LoneKey (keyField : String) (qualifiers before : List Qualifier) (condition : Condition)
    (after : List Qualifier) : Prop where
  listed : qualifiers = before ++ .leaf condition :: after
  onKey : condition.field = some keyField
  elsewhere : ∀ other ∈ before ++ after, other.isOn keyField = false

theorem exists_loneKey_of_filter_eq {keyField : String} {qualifiers : List Qualifier}
    {only : Qualifier} (isOnly : qualifiers.filter (Qualifier.isOn keyField) = [only]) :
    ∃ before condition after, only = .leaf condition ∧
      LoneKey keyField qualifiers before condition after := by
  obtain ⟨before, after, listed, noneBefore, onKey, noneAfter⟩ := List.filter_eq_cons_iff.mp isOnly
  obtain ⟨condition, isLeaf, isKey⟩ := (Qualifier.isOn_iff keyField only).mp onKey
  refine ⟨before, condition, after, isLeaf, isLeaf ▸ listed, isKey, ?_⟩
  intro other member
  rcases List.mem_append.mp member with inBefore | inAfter
  · exact Bool.eq_false_iff.mpr (noneBefore other inBefore)
  · exact Bool.eq_false_iff.mpr (List.filter_eq_nil_iff.mp noneAfter other inAfter)

theorem exists_loneKey_of_countP_eq_one {keyField : String} {qualifiers : List Qualifier}
    (once : qualifiers.countP (Qualifier.isOn keyField) = 1) :
    ∃ before condition after, LoneKey keyField qualifiers before condition after := by
  rw [List.countP_eq_length_filter] at once
  obtain ⟨only, isOnly⟩ := List.length_eq_one_iff.mp once
  obtain ⟨before, condition, after, _, lone⟩ := exists_loneKey_of_filter_eq isOnly
  exact ⟨before, condition, after, lone⟩

namespace LoneKey

variable {keyField : String} {qualifiers before after : List Qualifier} {condition : Condition}

theorem isOn_leaf (lone : LoneKey keyField qualifiers before condition after) :
    (Qualifier.leaf condition).isOn keyField = true :=
  (Qualifier.isOn_iff keyField _).mpr ⟨condition, rfl, lone.onKey⟩

theorem mem (lone : LoneKey keyField qualifiers before condition after) :
    Qualifier.leaf condition ∈ qualifiers := by
  rw [lone.listed]
  exact List.mem_append_right before List.mem_cons_self

theorem filter_isOn (lone : LoneKey keyField qualifiers before condition after) :
    qualifiers.filter (Qualifier.isOn keyField) = [.leaf condition] := by
  have noneBefore : before.filter (Qualifier.isOn keyField) = [] := by
    rw [List.filter_eq_nil_iff]
    intro other member
    simp [lone.elsewhere other (List.mem_append_left after member)]
  have noneAfter : after.filter (Qualifier.isOn keyField) = [] := by
    rw [List.filter_eq_nil_iff]
    intro other member
    simp [lone.elsewhere other (List.mem_append_right before member)]
  rw [lone.listed, List.filter_append, noneBefore, List.nil_append,
    List.filter_cons_of_pos lone.isOn_leaf, noneAfter]

theorem withoutKey_eq (lone : LoneKey keyField qualifiers before condition after) :
    withoutKey keyField qualifiers = before ++ after := by
  have kept : (before ++ after).filter (fun other => !other.isOn keyField) = before ++ after := by
    rw [List.filter_eq_self]
    intro other member
    simp [lone.elsewhere other member]
  unfold withoutKey
  rw [lone.listed, List.filter_append, List.filter_cons_of_neg (by simp [lone.isOn_leaf]),
    ← List.filter_append, kept]

/-- The operator of the leaf plays no part in the value that is found. -/
theorem keyValue_eq (lone : LoneKey keyField qualifiers before condition after) {value : Json}
    (bound : condition.value1 = some (.literal value)) :
    keyValue keyField qualifiers = .ok value := by
  have found : (Qualifier.leaf condition).value1.bind Operand.literal? = some value :=
    Option.bind_eq_some_iff.mpr ⟨.literal value, bound, rfl⟩
  unfold keyValue
  rw [lone.filter_isOn, List.findSome?_cons, found]

theorem eq_of_mem (lone : LoneKey keyField qualifiers before condition after)
    {other : Condition} (member : Qualifier.leaf other ∈ qualifiers)
    (onKey : other.field = some keyField) : other = condition := by
  have kept : Qualifier.leaf other ∈ qualifiers.filter (Qualifier.isOn keyField) :=
    List.mem_filter.mpr ⟨member, (Qualifier.isOn_iff keyField _).mpr ⟨other, rfl, onKey⟩⟩
  rw [lone.filter_isOn] at kept
  exact Qualifier.leaf.inj (List.mem_singleton.mp kept)

theorem length_eq (lone : LoneKey keyField qualifiers before condition after) :
    qualifiers.length = (before ++ after).length + 1 := by
  rw [lone.listed]
  simp only [List.length_append, List.length_cons]
  omega

end LoneKey

/-! ### What a split determines -/

namespace KeySplit

variable {keyField : String} {qualifiers before after : List Qualifier} {condition : Condition}
  {value : Json}

theorem lone (split : KeySplit keyField qualifiers before condition value after) :
    LoneKey keyField qualifiers before condition after :=
  ⟨split.listed, split.onKey, split.elsewhere⟩

theorem ofLone (lone : LoneKey keyField qualifiers before condition after)
    (compares : condition.operator = .equal ∨ condition.operator = .among)
    (bound : condition.value1 = some (.literal value)) :
    KeySplit keyField qualifiers before condition value after :=
  ⟨lone.listed, lone.onKey, compares, bound, lone.elsewhere⟩

theorem fixesKey (split : KeySplit keyField qualifiers before condition value after) :
    (Qualifier.leaf condition).fixesKey keyField = true :=
  (Qualifier.fixesKey_iff keyField _).mpr
    ⟨condition, value, rfl, split.onKey, split.compares, split.bound⟩

theorem withoutKey_eq (split : KeySplit keyField qualifiers before condition value after) :
    withoutKey keyField qualifiers = before ++ after :=
  split.lone.withoutKey_eq

theorem keyValue_eq (split : KeySplit keyField qualifiers before condition value after) :
    keyValue keyField qualifiers = .ok value :=
  split.lone.keyValue_eq split.bound

theorem conjunctionPath_eq (split : KeySplit keyField qualifiers before condition value after) :
    conjunctionPath keyField qualifiers =
      if before ++ after = [] then .byKey else .byKeyFiltered := by
  have alone : qualifiers.length = 1 ↔ before ++ after = [] := by
    rw [split.lone.length_eq, ← List.length_eq_zero_iff]
    omega
  unfold conjunctionPath
  rw [split.lone.filter_isOn]
  simp only [split.fixesKey, if_true, alone]

end KeySplit

theorem exists_keySplit_of_conjunctionPath (keyField : String) (members : List Qualifier)
    (reads : (conjunctionPath keyField members).readsByKey = true) :
    ∃ before condition value after, KeySplit keyField members before condition value after := by
  unfold conjunctionPath at reads
  split at reads
  · rename_i only isOnly
    split at reads
    · rename_i fixes
      obtain ⟨before, condition, after, isLeaf, lone⟩ := exists_loneKey_of_filter_eq isOnly
      rw [isLeaf] at fixes
      obtain ⟨same, value, isSame, _, compares, bound⟩ :=
        (Qualifier.fixesKey_iff keyField _).mp fixes
      cases isSame
      exact ⟨before, condition, value, after, KeySplit.ofLone lone compares bound⟩
    · cases reads
  · cases reads

/-! ### Choosing the path -/

theorem AccessPath.eq_scan_of_not_readsByKey {path : AccessPath}
    (noRead : path.readsByKey = false) : path = .scan := by
  cases path with
  | byKey => cases noRead
  | byKeyFiltered => cases noRead
  | scan => rfl

namespace Criteria

/-- Whether the criteria ask for all their qualifiers at the top level: a leaf asks for itself. -/
def isConjunction (criteria : Criteria) : Bool :=
  match criteria.root with
  | .leaf _ => true
  | .group head _ => decide (head.operator = .and)

theorem accessPath_leaf (keyField : String) (condition : Condition) :
    (Criteria.mk (.leaf condition)).accessPath keyField =
      conjunctionPath keyField [.leaf condition] := by
  by_cases onKey : condition.field = some keyField
  · have isOn : (Qualifier.leaf condition).isOn keyField = true := by simp [Qualifier.isOn, onKey]
    have shown : (Criteria.mk (.leaf condition)).isOnKey keyField = true := by
      simp [isOnKey, isCombined, Qualifier.isGroup, field, onKey]
    unfold accessPath conjunctionPath
    rw [if_pos shown, List.filter_cons_of_pos isOn]
    simp
  · -- A leaf without a field shows `combined`, which may be the key field; it fixes no key even so.
    have notOn : (Qualifier.leaf condition).isOn keyField = false := by simp [Qualifier.isOn, onKey]
    have notFixed : (Qualifier.leaf condition).fixesKey keyField = false := by
      simp [Qualifier.fixesKey, notOn]
    have noMember : (Criteria.mk (.leaf condition)).hasKeyMember keyField = false := rfl
    unfold accessPath conjunctionPath
    simp [notOn, notFixed, noMember]

theorem accessPath_group (keyField : String) (head : Condition) (nested : List Qualifier) :
    (Criteria.mk (.group head nested)).accessPath keyField =
      if head.operator = .and then conjunctionPath keyField nested else .scan := by
  have notShown : (Criteria.mk (.group head nested)).isOnKey keyField = false := rfl
  have hasMember : (Criteria.mk (.group head nested)).hasKeyMember keyField =
      nested.any (Qualifier.isOn keyField) := rfl
  have joins : (Qualifier.group head nested).operator = head.operator := rfl
  have members : (Criteria.mk (.group head nested)).nested?.getD [] = nested := rfl
  unfold accessPath
  rw [notShown, hasMember, joins, members]
  by_cases isAnd : head.operator = .and
  · cases someOn : nested.any (Qualifier.isOn keyField) with
    | true => simp [isAnd]
    | false =>
        have noneOn : nested.filter (Qualifier.isOn keyField) = [] := by
          rw [List.filter_eq_nil_iff]
          exact List.any_eq_false.mp someOn
        have scanned : conjunctionPath keyField nested = .scan := by
          unfold conjunctionPath
          rw [noneOn]
        simp [scanned]
  · simp [isAnd]

theorem accessPath_eq (keyField : String) (criteria : Criteria) :
    criteria.accessPath keyField =
      if criteria.isConjunction then conjunctionPath keyField criteria.qualifierList
      else .scan := by
  obtain ⟨root⟩ := criteria
  cases root with
  | leaf condition => exact accessPath_leaf keyField condition
  | group head nested =>
      rw [accessPath_group]
      by_cases isAnd : head.operator = .and
      · simp [isConjunction, qualifierList, isAnd]
      · simp [isConjunction, isAnd]

/-- Records are read by key exactly when the criteria are a conjunction that splits at one
condition which fixes the key. -/
theorem readsByKey_accessPath_iff (keyField : String) (criteria : Criteria) :
    (criteria.accessPath keyField).readsByKey = true ↔
      criteria.isConjunction = true ∧ ∃ before condition value after,
        KeySplit keyField criteria.qualifierList before condition value after := by
  rw [accessPath_eq]
  constructor
  · intro reads
    cases conjunction : criteria.isConjunction with
    | false =>
        rw [conjunction] at reads
        cases reads
    | true =>
        rw [conjunction, if_pos rfl] at reads
        exact ⟨rfl, exists_keySplit_of_conjunctionPath keyField criteria.qualifierList reads⟩
  · rintro ⟨conjunction, before, condition, value, after, split⟩
    rw [if_pos conjunction, split.conjunctionPath_eq]
    by_cases alone : before ++ after = []
    · rw [if_pos alone]
      rfl
    · rw [if_neg alone]
      rfl

end Criteria

namespace KeySplit

variable {keyField : String} {criteria : Criteria} {before after : List Qualifier}
  {condition : Condition} {value : Json}

theorem readsByKey
    (split : KeySplit keyField criteria.qualifierList before condition value after)
    (conjunction : criteria.isConjunction = true) :
    (criteria.accessPath keyField).readsByKey = true :=
  (criteria.readsByKey_accessPath_iff keyField).mpr
    ⟨conjunction, before, condition, value, after, split⟩

theorem accessPath_ne_scan
    (split : KeySplit keyField criteria.qualifierList before condition value after)
    (conjunction : criteria.isConjunction = true) : criteria.accessPath keyField ≠ .scan := by
  intro isScan
  have reads := split.readsByKey conjunction
  rw [isScan] at reads
  cases reads

theorem accessPath_eq
    (split : KeySplit keyField criteria.qualifierList before condition value after)
    (conjunction : criteria.isConjunction = true) :
    criteria.accessPath keyField = if before ++ after = [] then .byKey else .byKeyFiltered := by
  rw [Criteria.accessPath_eq, if_pos conjunction, split.conjunctionPath_eq]

/-- On the path `byKey` no filters are computed, since the split leaves none. -/
theorem remainingFilters_eq
    (split : KeySplit keyField criteria.qualifierList before condition value after)
    (conjunction : criteria.isConjunction = true) :
    criteria.remainingFilters keyField (criteria.accessPath keyField) = before ++ after := by
  rw [split.accessPath_eq conjunction]
  by_cases alone : before ++ after = []
  · rw [if_pos alone, alone]
    rfl
  · rw [if_neg alone]
    exact split.withoutKey_eq

theorem readByKey_eq {registration : Registration} {plan : Plan}
    (split : KeySplit registration.keyField plan.criteria.qualifierList before condition value
      after)
    (conjunction : plan.criteria.isConjunction = true) (target : RecordType) (store : Store) :
    registration.readByKey plan (registration.accessPath plan) target store = (do
      countKeyRead (KeyArgument.ofValue? value)
      readKeys store registration.method.entity target (KeyArgument.ofValue? value)
        (before ++ after)) := by
  have filters : plan.criteria.remainingFilters registration.keyField
      (registration.accessPath plan) = before ++ after := split.remainingFilters_eq conjunction
  unfold Registration.readByKey
  rw [split.keyValue_eq, filters]

end KeySplit

/-- A leaf on the key field is bound to the value, whatever its operator is. -/
def Criteria.KeyLiteral (keyField : String) (criteria : Criteria) (value : Json) : Prop :=
  ∃ condition, Qualifier.leaf condition ∈ criteria.qualifierList ∧
    condition.field = some keyField ∧ condition.value1 = some (.literal value)

theorem KeySplit.keyLiteral_iff {keyField : String} {criteria : Criteria}
    {before after : List Qualifier} {condition : Condition} {value : Json}
    (split : KeySplit keyField criteria.qualifierList before condition value after)
    (other : Json) : criteria.KeyLiteral keyField other ↔ other = value := by
  constructor
  · rintro ⟨leaf, member, onKey, bound⟩
    rw [split.lone.eq_of_mem member onKey, split.bound] at bound
    exact (Operand.literal.inj (Option.some.inj bound)).symm
  · intro same
    subst same
    exact ⟨condition, split.lone.mem, split.onKey, split.bound⟩

end KeyedQuery
