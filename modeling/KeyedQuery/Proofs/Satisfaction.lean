import KeyedQuery.Criteria

/-!
What criteria mean.

A reading says of each leaf whether it holds. A group with `and` holds when all its members do and
a group with `or` when some member does; a group with any other operator joins nothing, and the
reading says of it as a whole whether it holds.
-/

set_option autoImplicit false

namespace KeyedQuery

/-- What the parts of criteria that are not joined any further say about a record. -/
structure Reading where
  leaf : Condition → Bool
  group : Condition → List Qualifier → Bool

namespace Qualifier

mutual

def holds (reading : Reading) : Qualifier → Bool
  | .leaf condition => reading.leaf condition
  | .group head nested =>
      match head.operator with
      | .and => allHold reading nested
      | .or => someHold reading nested
      | _ => reading.group head nested

def allHold (reading : Reading) : List Qualifier → Bool
  | [] => true
  | qualifier :: rest => holds reading qualifier && allHold reading rest

def someHold (reading : Reading) : List Qualifier → Bool
  | [] => false
  | qualifier :: rest => holds reading qualifier || someHold reading rest

end

variable (reading : Reading)

theorem allHold_eq_all (qualifiers : List Qualifier) :
    allHold reading qualifiers = qualifiers.all (holds reading) := by
  induction qualifiers with
  | nil => rfl
  | cons head tail ih => rw [allHold, List.all_cons, ih]

theorem someHold_eq_any (qualifiers : List Qualifier) :
    someHold reading qualifiers = qualifiers.any (holds reading) := by
  induction qualifiers with
  | nil => rfl
  | cons head tail ih => rw [someHold, List.any_cons, ih]

theorem holds_leaf (condition : Condition) :
    (Qualifier.leaf condition).holds reading = reading.leaf condition := by
  rw [holds]

theorem holds_group_and {head : Condition} (isAnd : head.operator = .and)
    (nested : List Qualifier) :
    (Qualifier.group head nested).holds reading = nested.all (holds reading) := by
  rw [holds, isAnd, ← allHold_eq_all]

theorem holds_group_or {head : Condition} (isOr : head.operator = .or)
    (nested : List Qualifier) :
    (Qualifier.group head nested).holds reading = nested.any (holds reading) := by
  rw [holds, isOr, ← someHold_eq_any]

end Qualifier

end KeyedQuery
