/-!
Operators of conditions.

`and` and `or` join the conditions of a group; every other operator compares a field with a fixed
number of operands, its arity.
-/

set_option autoImplicit false

namespace KeyedQuery

inductive Operator where
  | and
  | or
  | equal
  | notEqual
  /-- The field is one of the items of an array. -/
  | among
  | notAmong
  /-- The field lies between two operands, both included. -/
  | between
  | greater
  | greaterOrEqual
  | less
  | lessOrEqual
  | startsWith
  | endsWith
  | containing
  | isNull
  | isNotNull
deriving DecidableEq

namespace Operator

def all : List Operator :=
  [.and, .or, .equal, .notEqual, .among, .notAmong, .between, .greater, .greaterOrEqual, .less,
    .lessOrEqual, .startsWith, .endsWith, .containing, .isNull, .isNotNull]

theorem mem_all (operator : Operator) : operator ∈ all := by
  cases operator <;> simp [all]

def isLogical : Operator → Bool
  | .and | .or => true
  | _ => false

/-- Whether a read by key can answer a condition with this operator on the key field. -/
def readsKey : Operator → Bool
  | .equal | .among => true
  | _ => false

def arity : Operator → Nat
  | .and | .or | .isNull | .isNotNull => 0
  | .between => 2
  | _ => 1

/-- The name of the operator in an explanation. -/
def name : Operator → String
  | .and => "and"
  | .or => "or"
  | .equal => "eq"
  | .notEqual => "ne"
  | .among => "in"
  | .notAmong => "not_in"
  | .between => "between"
  | .greater => "gt"
  | .greaterOrEqual => "gte"
  | .less => "lt"
  | .lessOrEqual => "lte"
  | .startsWith => "starts_with"
  | .endsWith => "ends_with"
  | .containing => "containing"
  | .isNull => "is_null"
  | .isNotNull => "is_not_null"

theorem arity_le_two (operator : Operator) : operator.arity ≤ 2 := by
  cases operator <;> decide

end Operator

end KeyedQuery
