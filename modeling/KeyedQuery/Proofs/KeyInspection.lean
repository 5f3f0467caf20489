import KeyedQuery.Proofs.KeySplit

/-!
What can be asked about conditions on the key field.

Criteria are asked for such a condition as a whole, and lists of qualifiers are asked for the first
one, for the value that it is bound to, and for what is left without any of them. The answers agree:
there is a condition on the key field where one is found, and where leaving it out makes the list
shorter. A leaf without a field shows the name `combined`, so for a key field of that name the
question to the whole would be answered by what is not there.
-/

set_option autoImplicit false

namespace KeyedQuery

/-! ### Leaving the key field out -/

/-- The list has nothing on the key field, and it holds everything else: each list of qualifiers
that are not on the key field, taken from the whole in order, is taken from it. -/
structure IsRestBesideKey (keyField : String) (qualifiers rest : List Qualifier) : Prop where
  ordered : rest.Sublist qualifiers
  elsewhere : ∀ other ∈ rest, other.isOn keyField = false
  complete : ∀ others : List Qualifier, others.Sublist qualifiers →
    (∀ other ∈ others, other.isOn keyField = false) → others.Sublist rest

/-- There is one rest only. -/
theorem IsRestBesideKey.eq {keyField : String} {qualifiers rest other : List Qualifier}
    (isRest : IsRestBesideKey keyField qualifiers rest)
    (isOther : IsRestBesideKey keyField qualifiers other) : rest = other := by
  have inOther := isOther.complete rest isRest.ordered isRest.elsewhere
  have inRest := isRest.complete other isOther.ordered isOther.elsewhere
  exact inOther.eq_of_length_le inRest.length_le

section

variable (keyField : String) (qualifiers : List Qualifier)

theorem withoutKey_eq_self (elsewhere : ∀ other ∈ qualifiers, other.isOn keyField = false) :
    withoutKey keyField qualifiers = qualifiers := by
  unfold withoutKey
  rw [List.filter_eq_self]
  intro other member
  rw [elsewhere other member]
  rfl

theorem isRestBesideKey_withoutKey :
    IsRestBesideKey keyField qualifiers (withoutKey keyField qualifiers) := by
  refine ⟨List.filter_sublist, ?_, ?_⟩
  · intro other member
    exact Bool.not_inj (List.mem_filter.mp member).2
  · intro others ordered elsewhere
    have kept := ordered.filter fun other => !other.isOn keyField
    have unchanged : others.filter (fun other => !other.isOn keyField) = others :=
      withoutKey_eq_self keyField others elsewhere
    rw [unchanged] at kept
    exact kept

theorem length_withoutKey_lt_iff :
    (withoutKey keyField qualifiers).length < qualifiers.length ↔
      ∃ qualifier ∈ qualifiers, qualifier.isOn keyField = true := by
  unfold withoutKey
  rw [List.length_filter_lt_length_iff_exists]
  simp

/-! ### Finding a qualifier on the key field -/

theorem exists_keyQualifier_iff :
    (∃ qualifier, keyQualifier keyField qualifiers = .ok qualifier) ↔
      ∃ qualifier ∈ qualifiers, qualifier.isOn keyField = true := by
  rw [← List.find?_isSome]
  unfold keyQualifier
  cases qualifiers.find? (Qualifier.isOn keyField) with
  | none => simp
  | some qualifier => simp

end

/-! ### Finding the value of the key -/

namespace Qualifier

/-- A leaf on the key field whose first operand is there and is bound to the value. -/
def BindsKey (keyField : String) (qualifier : Qualifier) (value : Json) : Prop :=
  ∃ condition, qualifier = .leaf condition ∧ condition.field = some keyField ∧
    condition.value1 = some (.literal value)

theorem BindsKey.isOn {keyField : String} {qualifier : Qualifier} {value : Json}
    (binds : qualifier.BindsKey keyField value) : qualifier.isOn keyField = true := by
  obtain ⟨condition, isLeaf, onKey, _⟩ := binds
  exact (isOn_iff keyField qualifier).mpr ⟨condition, isLeaf, onKey⟩

def keyLiteral? (keyField : String) (qualifier : Qualifier) : Option Json :=
  if qualifier.isOn keyField then qualifier.value1.bind Operand.literal? else none

theorem keyLiteral?_eq_some_iff (keyField : String) (qualifier : Qualifier) (value : Json) :
    qualifier.keyLiteral? keyField = some value ↔ qualifier.BindsKey keyField value := by
  unfold keyLiteral?
  rw [Option.ite_none_right_eq_some, isOn_iff]
  constructor
  · intro both
    obtain ⟨⟨condition, isLeaf, onKey⟩, found⟩ := both
    obtain ⟨operand, present, isLiteral⟩ := Option.bind_eq_some_iff.mp found
    rw [(Operand.literal?_eq_some_iff operand value).mp isLiteral, isLeaf] at present
    exact ⟨condition, isLeaf, onKey, present⟩
  · intro binds
    obtain ⟨condition, isLeaf, onKey, bound⟩ := binds
    rw [isLeaf]
    exact ⟨⟨condition, rfl, onKey⟩, Option.bind_eq_some_iff.mpr ⟨.literal value, bound, rfl⟩⟩

theorem keyLiteral?_eq_none_iff (keyField : String) (qualifier : Qualifier) :
    qualifier.keyLiteral? keyField = none ↔ ∀ value, ¬ qualifier.BindsKey keyField value := by
  rw [Option.eq_none_iff_forall_ne_some]
  exact forall_congr' fun value => not_congr (keyLiteral?_eq_some_iff keyField qualifier value)

end Qualifier

/-- A qualifier binds the key field to the value, and none before it binds it to any. -/
def IsFirstKeyValue (keyField : String) (qualifiers : List Qualifier) (value : Json) : Prop :=
  ∃ before qualifier after, qualifiers = before ++ qualifier :: after ∧
    qualifier.BindsKey keyField value ∧
    ∀ other ∈ before, ∀ earlier, ¬ other.BindsKey keyField earlier

section

variable (keyField : String) (qualifiers : List Qualifier)

/-- Looking at every qualifier is the same as looking at those on the key field alone. -/
theorem findSome?_filter_isOn :
    ((qualifiers.filter (Qualifier.isOn keyField)).findSome? fun qualifier =>
        qualifier.value1.bind Operand.literal?) =
      qualifiers.findSome? (Qualifier.keyLiteral? keyField) := by
  induction qualifiers with
  | nil => rfl
  | cons head tail ih =>
      rw [List.findSome?_cons, ← ih]
      cases isOn : head.isOn keyField with
      | false =>
          rw [List.filter_cons_of_neg (Bool.eq_false_iff.mp isOn), Qualifier.keyLiteral?, isOn]
          rfl
      | true =>
          rw [List.filter_cons_of_pos isOn, List.findSome?_cons, Qualifier.keyLiteral?, isOn]
          rfl

theorem keyValue_eq_ok_iff_findSome? (value : Json) :
    keyValue keyField qualifiers = .ok value ↔
      qualifiers.findSome? (Qualifier.keyLiteral? keyField) = some value := by
  unfold keyValue
  rw [findSome?_filter_isOn]
  cases qualifiers.findSome? (Qualifier.keyLiteral? keyField) with
  | none => simp
  | some found => simp

theorem keyValue_eq_ok_iff (value : Json) :
    keyValue keyField qualifiers = .ok value ↔ IsFirstKeyValue keyField qualifiers value := by
  rw [keyValue_eq_ok_iff_findSome?, List.findSome?_eq_some_iff]
  unfold IsFirstKeyValue
  simp only [Qualifier.keyLiteral?_eq_some_iff, Qualifier.keyLiteral?_eq_none_iff]

theorem exists_keyValue_iff :
    (∃ value, keyValue keyField qualifiers = .ok value) ↔
      ∃ qualifier ∈ qualifiers, ∃ value, qualifier.BindsKey keyField value := by
  simp only [keyValue_eq_ok_iff_findSome?]
  rw [← Option.isSome_iff_exists, List.findSome?_isSome_iff]
  simp only [Option.isSome_iff_exists, Qualifier.keyLiteral?_eq_some_iff]

variable {keyField qualifiers}

/-- Where a value of the key is found, a qualifier on the key field is found. -/
theorem exists_keyQualifier_of_keyValue {value : Json}
    (found : keyValue keyField qualifiers = .ok value) :
    ∃ qualifier, keyQualifier keyField qualifiers = .ok qualifier := by
  obtain ⟨qualifier, member, _, binds⟩ :=
    (exists_keyValue_iff keyField qualifiers).mp ⟨value, found⟩
  exact (exists_keyQualifier_iff keyField qualifiers).mpr ⟨qualifier, member, binds.isOn⟩

/-- The only qualifier on the key field is the one that is left out and whose value is found. -/
theorem withoutKey_and_keyValue_of_countP_eq_one {qualifier : Qualifier} {value : Json}
    (member : qualifier ∈ qualifiers)
    (once : qualifiers.countP (Qualifier.isOn keyField) = 1)
    (binds : qualifier.BindsKey keyField value) :
    (withoutKey keyField qualifiers).length + 1 = qualifiers.length ∧
      keyValue keyField qualifiers = .ok value := by
  obtain ⟨before, condition, after, lone⟩ := exists_loneKey_of_countP_eq_one once
  obtain ⟨asked, isLeaf, onKey, bound⟩ := binds
  have isAsked : asked = condition := lone.eq_of_mem (isLeaf ▸ member) onKey
  rw [isAsked] at bound
  rw [lone.withoutKey_eq]
  exact ⟨lone.length_eq.symm, lone.keyValue_eq bound⟩

end

/-! ### Asking the criteria as a whole -/

namespace Criteria

variable {keyField : String} (criteria : Criteria)

/-- A leaf shows a key field other than `combined` only if it has that field. -/
theorem isOnKey_leaf_iff (named : keyField ≠ combinedField) (condition : Condition) :
    (Criteria.mk (.leaf condition)).isOnKey keyField = true ↔
      (Qualifier.leaf condition).isOn keyField = true := by
  have shown : (Criteria.mk (.leaf condition)).isOnKey keyField =
      (condition.field.getD combinedField == keyField) := rfl
  have isOn : (Qualifier.leaf condition).isOn keyField =
      (condition.field == some keyField) := rfl
  rw [shown, isOn, beq_iff_eq, beq_iff_eq]
  cases condition.field with
  | none => exact iff_of_false (fun same => named same.symm) (fun same => nomatch same)
  | some field => exact Option.some_inj.symm

example :
    let condition : Condition := ⟨none, .equal, none, none⟩
    (Criteria.mk (.leaf condition)).isOnKey combinedField = true ∧
      (Qualifier.leaf condition).isOn combinedField = false := by
  decide

theorem isOnKey_or_hasKeyMember_iff (named : keyField ≠ combinedField) :
    (criteria.isOnKey keyField = true ∨ criteria.hasKeyMember keyField = true) ↔
      ∃ qualifier ∈ criteria.qualifierList, qualifier.isOn keyField = true := by
  obtain ⟨root⟩ := criteria
  cases root with
  | leaf condition =>
      have noMember : (Criteria.mk (.leaf condition)).hasKeyMember keyField = false := rfl
      have alone : (Criteria.mk (.leaf condition)).qualifierList = [.leaf condition] := rfl
      rw [noMember, alone, isOnKey_leaf_iff named]
      simp
  | group head nested =>
      have notShown : (Criteria.mk (.group head nested)).isOnKey keyField = false := rfl
      have asked : (Criteria.mk (.group head nested)).hasKeyMember keyField =
          nested.any (Qualifier.isOn keyField) := rfl
      have members : (Criteria.mk (.group head nested)).qualifierList = nested := rfl
      rw [notShown, asked, members, List.any_eq_true]
      simp

theorem not_isOnKey_and_hasKeyMember :
    ¬ (criteria.isOnKey keyField = true ∧ criteria.hasKeyMember keyField = true) := by
  obtain ⟨root⟩ := criteria
  intro both
  cases root with
  | leaf condition => cases both.2
  | group head nested => cases both.1

end Criteria

/-! ### The answers agree -/

/-- Whether criteria have a condition on the key field at the top level is answered alike by asking
them, by looking for it, and by leaving it out. Of any list, what is left out are the qualifiers on
the key field and nothing else, and the value found is that of the first of them that is bound to
one; if there is only one of them and it is bound, its value is found and it alone is left out. -/
theorem inspections_of_key_agree (keyField : String) :
    (∀ criteria : Criteria,
      let qualifiers := criteria.qualifierList
      (keyField ≠ combinedField →
        ((criteria.isOnKey keyField = true ∨ criteria.hasKeyMember keyField = true) ↔
          ∃ qualifier, keyQualifier keyField qualifiers = .ok qualifier) ∧
        ((∃ qualifier, keyQualifier keyField qualifiers = .ok qualifier) ↔
          (withoutKey keyField qualifiers).length < qualifiers.length)) ∧
      ¬ (criteria.isOnKey keyField = true ∧ criteria.hasKeyMember keyField = true)) ∧
    ∀ qualifiers : List Qualifier,
      let rest := withoutKey keyField qualifiers
      (∀ other, other = rest ↔ IsRestBesideKey keyField qualifiers other) ∧
      withoutKey keyField rest = rest ∧
      (∀ value, keyValue keyField qualifiers = .ok value ↔
        IsFirstKeyValue keyField qualifiers value) ∧
      ((∃ value, keyValue keyField qualifiers = .ok value) ↔
        ∃ qualifier ∈ qualifiers, ∃ value, qualifier.BindsKey keyField value) ∧
      (∀ value, keyValue keyField qualifiers = .ok value →
        ∃ qualifier, keyQualifier keyField qualifiers = .ok qualifier) ∧
      ∀ qualifier ∈ qualifiers, ∀ value,
        qualifiers.countP (Qualifier.isOn keyField) = 1 → qualifier.BindsKey keyField value →
          rest.length + 1 = qualifiers.length ∧ keyValue keyField qualifiers = .ok value := by
  constructor
  · intro criteria qualifiers
    refine ⟨fun named => ⟨?_, ?_⟩, criteria.not_isOnKey_and_hasKeyMember⟩
    · exact (criteria.isOnKey_or_hasKeyMember_iff named).trans
        (exists_keyQualifier_iff keyField qualifiers).symm
    · exact (exists_keyQualifier_iff keyField qualifiers).trans
        (length_withoutKey_lt_iff keyField qualifiers).symm
  · intro qualifiers rest
    have isRest := isRestBesideKey_withoutKey keyField qualifiers
    refine ⟨?_, withoutKey_eq_self keyField rest isRest.elsewhere,
      keyValue_eq_ok_iff keyField qualifiers, exists_keyValue_iff keyField qualifiers,
      fun _ => exists_keyQualifier_of_keyValue,
      fun _ member _ => withoutKey_and_keyValue_of_countP_eq_one member⟩
    intro other
    constructor
    · intro same
      exact same ▸ isRest
    · intro isOther
      exact isOther.eq isRest

/-- One member of three is on the key field. It is found with its value, although it asks for greater
keys, and the group is kept, although a leaf inside it is on the key field. -/
theorem range_on_key_is_inspected :
    let key : Qualifier := .greater "id" (.ofNat 3)
    let qualifiers : List Qualifier :=
      [.equal "name" (.string "Ann"), key, .anyOf [.equal "id" (.ofNat 5)]]
    "id" ≠ combinedField ∧ (Criteria.mk (.allOf qualifiers)).hasKeyMember "id" = true ∧
      (∃ qualifier, keyQualifier "id" qualifiers = .ok qualifier) ∧ key ∈ qualifiers ∧
      qualifiers.countP (Qualifier.isOn "id") = 1 ∧ key.BindsKey "id" (.ofNat 3) ∧
      (withoutKey "id" qualifiers).length + 1 = qualifiers.length ∧
      keyValue "id" qualifiers = .ok (.ofNat 3) := by
  intro key qualifiers
  obtain ⟨ofCriteria, ofList⟩ := inspections_of_key_agree "id"
  have named : "id" ≠ combinedField := by decide
  have hasMember : (Criteria.mk (.allOf qualifiers)).hasKeyMember "id" = true := by decide
  have found := ((ofCriteria ⟨.allOf qualifiers⟩).1 named).1.mp (Or.inr hasMember)
  have member : key ∈ qualifiers := List.mem_cons_of_mem _ List.mem_cons_self
  have once : qualifiers.countP (Qualifier.isOn "id") = 1 := by decide
  have binds : key.BindsKey "id" (.ofNat 3) := ⟨_, rfl, rfl, rfl⟩
  obtain ⟨_, _, _, _, _, ofLoneKey⟩ := ofList qualifiers
  exact ⟨named, hasMember, found, member, once, binds, ofLoneKey key member _ once binds⟩

end KeyedQuery
