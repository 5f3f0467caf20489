import KeyedQuery.Operand
import KeyedQuery.Operator

/-!
Qualifiers: conditions and groups of conditions.

A leaf is one condition. A group joins the qualifiers nested in it; it has a condition of its own
too, of which only the operator matters. A group is a group whatever its operator is, and it may
be empty.
-/

set_option autoImplicit false

namespace KeyedQuery

structure Condition where
  field : Option String
  operator : Operator
  value1 : Option Operand
  value2 : Option Operand

inductive Qualifier where
  | leaf (condition : Condition)
  | group (head : Condition) (nested : List Qualifier)

def Condition.same (left right : Condition) : Bool :=
  left.field == right.field && left.operator == right.operator && left.value1 == right.value1 &&
    left.value2 == right.value2

instance : BEq Condition := ⟨Condition.same⟩

namespace Qualifier

/-! ### Building -/

def comparison (field : String) (operator : Operator) (operand : Operand) : Qualifier :=
  .leaf ⟨some field, operator, some operand, none⟩

def test (field : String) (operator : Operator) : Qualifier :=
  .leaf ⟨some field, operator, none, none⟩

def equal (field : String) (value : Json) : Qualifier :=
  comparison field .equal (.literal value)

def greater (field : String) (value : Json) : Qualifier :=
  comparison field .greater (.literal value)

def less (field : String) (value : Json) : Qualifier :=
  comparison field .less (.literal value)

def among (field : String) (values : List Json) : Qualifier :=
  comparison field .among (.literal (.array values))

def between (field : String) (low high : Json) : Qualifier :=
  .leaf ⟨some field, .between, some (.literal low), some (.literal high)⟩

def join (operator : Operator) (nested : List Qualifier) : Qualifier :=
  .group ⟨none, operator, none, none⟩ nested

def allOf (nested : List Qualifier) : Qualifier :=
  join .and nested

def anyOf (nested : List Qualifier) : Qualifier :=
  join .or nested

def withValue2 (operand : Operand) : Qualifier → Qualifier
  | .leaf condition => .leaf { condition with value2 := some operand }
  | .group head nested => .group { head with value2 := some operand } nested

/-! ### Parts -/

/-- The condition of a leaf, or a group's own. -/
def condition : Qualifier → Condition
  | .leaf condition => condition
  | .group head _ => head

def field (qualifier : Qualifier) : Option String :=
  qualifier.condition.field

def operator (qualifier : Qualifier) : Operator :=
  qualifier.condition.operator

def value1 (qualifier : Qualifier) : Option Operand :=
  qualifier.condition.value1

def value2 (qualifier : Qualifier) : Option Operand :=
  qualifier.condition.value2

def nested? : Qualifier → Option (List Qualifier)
  | .leaf _ => none
  | .group _ nested => some nested

def isGroup : Qualifier → Bool
  | .leaf _ => false
  | .group _ _ => true

def isOn (name : String) : Qualifier → Bool
  | .leaf condition => condition.field == some name
  | .group _ _ => false

/-! ### Equality of data -/

mutual

def same : Qualifier → Qualifier → Bool
  | .leaf left, .leaf right => left == right
  | .group leftHead left, .group rightHead right => leftHead == rightHead && sameAll left right
  | _, _ => false

def sameAll : List Qualifier → List Qualifier → Bool
  | [], [] => true
  | left :: leftRest, right :: rightRest => same left right && sameAll leftRest rightRest
  | _, _ => false

end

instance : BEq Qualifier := ⟨same⟩

end Qualifier

end KeyedQuery
