import KeyedQuery.Proofs.KeySplit

/-!
What the choice of the access path depends on.

Records are read by key when the criteria are one leaf that compares the key with a value, or a
conjunction with exactly one member on the key field, which is such a leaf. The path is therefore
read off the operator of the root and the leaves right below it: their order does not matter, and
neither does anything that a nested group holds.
-/

set_option autoImplicit false

namespace KeyedQuery

/-! ### Leaves on the key field -/

/-- A leaf that asks for one value of the key, or for one out of several, where the first operand
is there and is not deferred. -/
def Qualifier.ComparesKey (keyField : String) (qualifier : Qualifier) : Prop :=
  ∃ condition, qualifier = .leaf condition ∧ condition.field = some keyField ∧
    (condition.operator = .equal ∨ condition.operator = .among) ∧
    ∃ value, condition.value1 = some (.literal value)

theorem Qualifier.ComparesKey.isOn {keyField : String} {qualifier : Qualifier}
    (compares : qualifier.ComparesKey keyField) : qualifier.isOn keyField = true := by
  obtain ⟨condition, isLeaf, onKey, _⟩ := compares
  exact (Qualifier.isOn_iff keyField qualifier).mpr ⟨condition, isLeaf, onKey⟩

/-- A list splits at a leaf that compares the key exactly when one qualifier is on the key field
and one compares the key: the two are the same. -/
theorem exists_keySplit_iff (keyField : String) (qualifiers : List Qualifier) :
    (∃ before condition value after, KeySplit keyField qualifiers before condition value after) ↔
      qualifiers.countP (Qualifier.isOn keyField) = 1 ∧
        ∃ key ∈ qualifiers, key.ComparesKey keyField := by
  constructor
  · intro splits
    obtain ⟨before, condition, value, after, split⟩ := splits
    refine ⟨?_, .leaf condition, split.lone.mem, condition, rfl, split.onKey, split.compares,
      value, split.bound⟩
    rw [List.countP_eq_length_filter, split.lone.filter_isOn]
    rfl
  · intro both
    obtain ⟨once, key, member, compares⟩ := both
    obtain ⟨before, condition, after, lone⟩ := exists_loneKey_of_countP_eq_one once
    obtain ⟨asked, isLeaf, onKey, operator, value, bound⟩ := compares
    have isAsked : asked = condition := lone.eq_of_mem (isLeaf ▸ member) onKey
    rw [isAsked] at operator bound
    exact ⟨before, condition, value, after, KeySplit.ofLone lone operator bound⟩

/-! ### Criteria that fix the key -/

namespace Criteria

/-- All qualifiers at the top level have to hold, exactly one of them is on the key field, and one
compares the key with a value. -/
structure FixesKey (keyField : String) (criteria : Criteria) : Prop where
  conjunction : criteria.isConjunction = true
  once : criteria.qualifierList.countP (Qualifier.isOn keyField) = 1
  compares : ∃ key ∈ criteria.qualifierList, key.ComparesKey keyField

variable {keyField : String} {criteria : Criteria}

theorem fixesKey_iff_exists_keySplit :
    criteria.FixesKey keyField ↔
      criteria.isConjunction = true ∧ ∃ before condition value after,
        KeySplit keyField criteria.qualifierList before condition value after := by
  rw [exists_keySplit_iff]
  constructor
  · intro fixes
    exact ⟨fixes.conjunction, fixes.once, fixes.compares⟩
  · intro both
    obtain ⟨conjunction, once, compares⟩ := both
    exact ⟨conjunction, once, compares⟩

theorem FixesKey.accessPath_eq (fixes : criteria.FixesKey keyField) :
    criteria.accessPath keyField =
      if criteria.qualifierList.length = 1 then .byKey else .byKeyFiltered := by
  obtain ⟨conjunction, before, condition, value, after, split⟩ :=
    fixesKey_iff_exists_keySplit.mp fixes
  have single : criteria.qualifierList.length = 1 ↔ before ++ after = [] := by
    rw [split.lone.length_eq, ← List.length_eq_zero_iff]
    omega
  rw [split.accessPath_eq conjunction]
  simp only [single]

theorem accessPath_eq_scan_iff :
    criteria.accessPath keyField = .scan ↔ ¬ criteria.FixesKey keyField := by
  rw [fixesKey_iff_exists_keySplit, ← readsByKey_accessPath_iff]
  cases criteria.accessPath keyField <;> simp [AccessPath.readsByKey]

theorem FixesKey.length_pos (fixes : criteria.FixesKey keyField) :
    0 < criteria.qualifierList.length := by
  obtain ⟨key, member, _⟩ := fixes.compares
  exact List.length_pos_of_mem member

theorem accessPath_eq_byKey_iff :
    criteria.accessPath keyField = .byKey ↔
      criteria.FixesKey keyField ∧ criteria.qualifierList.length = 1 := by
  by_cases fixes : criteria.FixesKey keyField
  · rw [fixes.accessPath_eq]
    by_cases single : criteria.qualifierList.length = 1 <;> simp [fixes, single]
  · rw [accessPath_eq_scan_iff.mpr fixes]
    simp [fixes]

theorem accessPath_eq_byKeyFiltered_iff :
    criteria.accessPath keyField = .byKeyFiltered ↔
      criteria.FixesKey keyField ∧ 2 ≤ criteria.qualifierList.length := by
  by_cases fixes : criteria.FixesKey keyField
  · have listed := fixes.length_pos
    have several : 2 ≤ criteria.qualifierList.length ↔ criteria.qualifierList.length ≠ 1 := by
      omega
    rw [fixes.accessPath_eq, several]
    by_cases single : criteria.qualifierList.length = 1 <;> simp [fixes, single]
  · rw [accessPath_eq_scan_iff.mpr fixes]
    simp [fixes]

end Criteria

/-! ### The shapes of criteria that fix the key -/

/-- The criteria are a conjunction of the given qualifiers, whatever else its head says. -/
def Criteria.IsConjunctionOf (criteria : Criteria) (members : List Qualifier) : Prop :=
  ∃ head, criteria.root = .group head members ∧ head.operator = .and

theorem Criteria.IsConjunctionOf.qualifierList_eq {criteria : Criteria}
    {members : List Qualifier} (conjunction : criteria.IsConjunctionOf members) :
    criteria.qualifierList = members := by
  obtain ⟨head, isGroup, _⟩ := conjunction
  unfold qualifierList
  rw [isGroup]

theorem Qualifier.ComparesKey.qualifierList_eq {keyField : String} {criteria : Criteria}
    (compares : criteria.root.ComparesKey keyField) :
    criteria.qualifierList = [criteria.root] := by
  obtain ⟨condition, isLeaf, _⟩ := compares
  unfold Criteria.qualifierList
  rw [isLeaf]

namespace Criteria

variable {keyField : String} {criteria : Criteria}

theorem fixesKey_iff_shape :
    criteria.FixesKey keyField ↔
      criteria.root.ComparesKey keyField ∨ ∃ members, criteria.IsConjunctionOf members ∧
        members.countP (Qualifier.isOn keyField) = 1 ∧
          ∃ key ∈ members, key.ComparesKey keyField := by
  constructor
  · intro fixes
    obtain ⟨root⟩ := criteria
    cases root with
    | leaf condition =>
        obtain ⟨key, member, compares⟩ := fixes.compares
        rw [List.mem_singleton.mp member] at compares
        exact Or.inl compares
    | group head nested =>
        have isAnd : head.operator = .and := of_decide_eq_true fixes.conjunction
        exact Or.inr ⟨nested, ⟨head, rfl, isAnd⟩, fixes.once, fixes.compares⟩
  · intro shape
    rcases shape with isKey | ⟨members, conjunction, once, compares⟩
    · have listed := isKey.qualifierList_eq
      constructor
      · obtain ⟨condition, isLeaf, _⟩ := isKey
        unfold isConjunction
        rw [isLeaf]
      · rw [listed]
        exact List.countP_cons_of_pos isKey.isOn
      · rw [listed]
        exact ⟨criteria.root, List.mem_singleton.mpr rfl, isKey⟩
    · have listed := conjunction.qualifierList_eq
      obtain ⟨head, isGroup, isAnd⟩ := conjunction
      constructor
      · unfold isConjunction
        rw [isGroup]
        exact decide_eq_true isAnd
      · rw [listed]
        exact once
      · rw [listed]
        exact compares

theorem accessPath_eq_byKey_iff_shape :
    criteria.accessPath keyField = .byKey ↔
      criteria.root.ComparesKey keyField ∨
        ∃ only, criteria.IsConjunctionOf [only] ∧ only.ComparesKey keyField := by
  rw [accessPath_eq_byKey_iff, fixesKey_iff_shape]
  constructor
  · intro both
    obtain ⟨shape, single⟩ := both
    rcases shape with isKey | ⟨members, conjunction, _, key, member, compares⟩
    · exact Or.inl isKey
    · rw [conjunction.qualifierList_eq] at single
      obtain ⟨only, isOnly⟩ := List.length_eq_one_iff.mp single
      subst isOnly
      rw [List.mem_singleton.mp member] at compares
      exact Or.inr ⟨only, conjunction, compares⟩
  · intro shape
    rcases shape with isKey | ⟨only, conjunction, compares⟩
    · rw [isKey.qualifierList_eq]
      exact ⟨Or.inl isKey, rfl⟩
    · rw [conjunction.qualifierList_eq]
      refine ⟨Or.inr ⟨[only], conjunction, ?_, only, List.mem_singleton.mpr rfl, compares⟩, rfl⟩
      exact List.countP_cons_of_pos compares.isOn

theorem accessPath_eq_byKeyFiltered_iff_shape :
    criteria.accessPath keyField = .byKeyFiltered ↔
      ∃ members, criteria.IsConjunctionOf members ∧ 2 ≤ members.length ∧
        members.countP (Qualifier.isOn keyField) = 1 ∧
          ∃ key ∈ members, key.ComparesKey keyField := by
  rw [accessPath_eq_byKeyFiltered_iff, fixesKey_iff_shape]
  constructor
  · intro both
    obtain ⟨shape, several⟩ := both
    rcases shape with isKey | ⟨members, conjunction, once, compares⟩
    · rw [isKey.qualifierList_eq] at several
      exact absurd several (Nat.not_succ_le_self 1)
    · rw [conjunction.qualifierList_eq] at several
      exact ⟨members, conjunction, several, once, compares⟩
  · intro shape
    obtain ⟨members, conjunction, several, once, compares⟩ := shape
    rw [conjunction.qualifierList_eq]
    exact ⟨Or.inr ⟨members, conjunction, once, compares⟩, several⟩

end Criteria

/-- The condition of a leaf. All groups look the same, whatever they hold. -/
def Qualifier.leafCondition? : Qualifier → Option Condition
  | .leaf condition => some condition
  | .group _ _ => none

theorem Qualifier.isOn_eq_any (keyField : String) (qualifier : Qualifier) :
    qualifier.isOn keyField =
      qualifier.leafCondition?.any fun condition => condition.field == some keyField := by
  cases qualifier with
  | leaf condition => rfl
  | group head nested => rfl

theorem Qualifier.mem_map_leafCondition?_iff (condition : Condition)
    (qualifiers : List Qualifier) :
    some condition ∈ qualifiers.map Qualifier.leafCondition? ↔ .leaf condition ∈ qualifiers := by
  constructor
  · intro listed
    obtain ⟨qualifier, member, shown⟩ := List.mem_map.mp listed
    cases qualifier with
    | leaf own =>
        cases shown
        exact member
    | group head nested => cases shown
  · intro member
    exact List.mem_map.mpr ⟨.leaf condition, member, rfl⟩

namespace Criteria

/-- The roots are of one kind and have one operator, and right below them are the same leaves and
equally many groups, in any order. -/
structure SameTopLevel (left right : Criteria) : Prop where
  kind : left.isCombined = right.isCombined
  operator : left.root.operator = right.root.operator
  members : (left.qualifierList.map Qualifier.leafCondition?).Perm
    (right.qualifierList.map Qualifier.leafCondition?)

theorem isConjunction_eq (criteria : Criteria) :
    criteria.isConjunction = (!criteria.isCombined || decide (criteria.root.operator = .and)) := by
  obtain ⟨root⟩ := criteria
  cases root with
  | leaf condition => rfl
  | group head nested => rfl

namespace SameTopLevel

variable {keyField : String} {left right : Criteria}

theorem symm (same : left.SameTopLevel right) : right.SameTopLevel left :=
  ⟨same.kind.symm, same.operator.symm, same.members.symm⟩

theorem length_eq (same : left.SameTopLevel right) :
    left.qualifierList.length = right.qualifierList.length := by
  have mapped := same.members.length_eq
  rw [List.length_map, List.length_map] at mapped
  exact mapped

theorem fixesKey (same : left.SameTopLevel right) (fixes : left.FixesKey keyField) :
    right.FixesKey keyField := by
  constructor
  · rw [isConjunction_eq, ← same.kind, ← same.operator, ← isConjunction_eq]
    exact fixes.conjunction
  · have shown (qualifiers : List Qualifier) :
        qualifiers.countP (Qualifier.isOn keyField) =
          (qualifiers.map Qualifier.leafCondition?).countP fun condition? =>
            condition?.any fun condition => condition.field == some keyField := by
      rw [List.countP_map]
      exact List.countP_congr fun qualifier _ => by
        rw [Qualifier.isOn_eq_any]
        rfl
    rw [shown, ← same.members.countP_eq, ← shown]
    exact fixes.once
  · obtain ⟨key, member, condition, isLeaf, compares⟩ := fixes.compares
    rw [isLeaf, ← Qualifier.mem_map_leafCondition?_iff, same.members.mem_iff,
      Qualifier.mem_map_leafCondition?_iff] at member
    exact ⟨.leaf condition, member, condition, rfl, compares⟩

theorem accessPath_eq (same : left.SameTopLevel right) :
    left.accessPath keyField = right.accessPath keyField := by
  by_cases fixes : left.FixesKey keyField
  · rw [fixes.accessPath_eq, (same.fixesKey fixes).accessPath_eq, same.length_eq]
  · have others : ¬ right.FixesKey keyField := fun other => fixes (same.symm.fixesKey other)
    rw [accessPath_eq_scan_iff.mpr fixes, accessPath_eq_scan_iff.mpr others]

end SameTopLevel

end Criteria

/-- The three paths, each by the shape of the criteria that take it, and what the shape leaves
open. A leaf without a field shows the name `combined` and is no exception. -/
theorem path_follows_top_level (keyField : String) (criteria : Criteria) :
    let path := criteria.accessPath keyField
    let onlyKey := criteria.root.ComparesKey keyField ∨
      ∃ only, criteria.IsConjunctionOf [only] ∧ only.ComparesKey keyField
    let keyAmongOthers := ∃ members, criteria.IsConjunctionOf members ∧ 2 ≤ members.length ∧
      members.countP (Qualifier.isOn keyField) = 1 ∧ ∃ key ∈ members, key.ComparesKey keyField
    (path = .byKey ↔ onlyKey) ∧
    (path = .byKeyFiltered ↔ keyAmongOthers) ∧
    (path = .scan ↔ ¬ onlyKey ∧ ¬ keyAmongOthers) ∧
    ∀ other, criteria.SameTopLevel other → other.accessPath keyField = path := by
  intro path onlyKey keyAmongOthers
  have byKey : path = .byKey ↔ onlyKey := Criteria.accessPath_eq_byKey_iff_shape
  have byKeyFiltered : path = .byKeyFiltered ↔ keyAmongOthers :=
    Criteria.accessPath_eq_byKeyFiltered_iff_shape
  refine ⟨byKey, byKeyFiltered, ?_, ?_⟩
  · rw [← byKey, ← byKeyFiltered]
    cases path <;> simp
  · intro other same
    exact same.accessPath_eq.symm

/-- Two conjunctions in which the key stands last and first, and the nested groups hold different
things, the key field among them. -/
theorem nested_key_and_order_leave_path :
    let key : Qualifier := .among "id" [.string "p1", .string "p2"]
    let name : Qualifier := .equal "name" (.string "Ann")
    let left : Criteria := ⟨.allOf [.anyOf [.equal "id" (.string "p3"), name], name, key]⟩
    let right : Criteria := ⟨.allOf [key, .allOf [], name]⟩
    left.SameTopLevel right ∧ right.accessPath "id" = left.accessPath "id" ∧
      left.accessPath "id" = .byKeyFiltered := by
  intro key name left right
  have same : left.SameTopLevel right := by
    refine ⟨rfl, rfl, ?_⟩
    apply List.Perm.trans ((List.Perm.swap key.leafCondition? name.leafCondition? []).cons none)
    exact List.Perm.swap key.leafCondition? none [name.leafCondition?]
  exact ⟨same, (path_follows_top_level "id" left).2.2.2 right same, rfl⟩

end KeyedQuery
