import KeyedQuery.Qualifier

/-!
Criteria: the whole condition of a query.

Criteria are a tree of qualifiers, seen from its root. The name `combined` stands in for the field
where the root has none to show.
-/

set_option autoImplicit false

namespace KeyedQuery

def combinedField : String :=
  "combined"

structure Criteria where
  root : Qualifier

namespace Criteria

def same (left right : Criteria) : Bool :=
  left.root == right.root

instance : BEq Criteria := ⟨same⟩

def isCombined (criteria : Criteria) : Bool :=
  criteria.root.isGroup

/-- The field of the root, or `combined` for a group and for a leaf without a field. -/
def field (criteria : Criteria) : String :=
  match criteria.root with
  | .leaf condition => condition.field.getD combinedField
  | .group _ _ => combinedField

def nested? (criteria : Criteria) : Option (List Qualifier) :=
  criteria.root.nested?

/-- The qualifiers at the top level: the members of the root group, or the root alone. -/
def qualifierList (criteria : Criteria) : List Qualifier :=
  match criteria.root with
  | .leaf condition => [.leaf condition]
  | .group _ nested => nested

def requiresEvaluation (criteria : Criteria) : Bool :=
  isDeferredOperand criteria.root.value1

end Criteria

end KeyedQuery
