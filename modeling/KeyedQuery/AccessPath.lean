import KeyedQuery.Criteria
import KeyedQuery.QueryError

/-!
How the store finds the records of a query.

Criteria that fix the key can be answered by reading records by their keys; all others need a scan.
A read by key keeps only one condition on the key field, so criteria with two of them are scanned.
-/

set_option autoImplicit false

namespace KeyedQuery

inductive AccessPath where
  | byKey
  /-- By key, after which the other conditions are checked. -/
  | byKeyFiltered
  | scan
deriving DecidableEq

namespace AccessPath

def name : AccessPath → String
  | .byKey => "ID_LOOKUP"
  | .byKeyFiltered => "ID_LOOKUP_FILTERED"
  | .scan => "PREDICATE_SCAN"

def readsByKey : AccessPath → Bool
  | .byKey | .byKeyFiltered => true
  | .scan => false

end AccessPath

def defaultKeyField : String :=
  "id"

/-! ### Conditions on the key field -/

/-- Whether a qualifier fixes the key: a leaf on the key field whose operator a read by key can
answer and whose first operand is bound. -/
def Qualifier.fixesKey (keyField : String) (qualifier : Qualifier) : Bool :=
  qualifier.isOn keyField && qualifier.operator.readsKey &&
    (qualifier.value1.bind Operand.literal?).isSome

/-- Whether the criteria are a leaf that shows the key field as its own. -/
def Criteria.isOnKey (keyField : String) (criteria : Criteria) : Bool :=
  !criteria.isCombined && criteria.field == keyField

def Criteria.hasKeyMember (keyField : String) (criteria : Criteria) : Bool :=
  criteria.nested?.any fun qualifiers => qualifiers.any (Qualifier.isOn keyField)

def withoutKey (keyField : String) (qualifiers : List Qualifier) : List Qualifier :=
  qualifiers.filter fun qualifier => !qualifier.isOn keyField

def keyQualifier (keyField : String) (qualifiers : List Qualifier) :
    Except QueryError Qualifier :=
  match qualifiers.find? (Qualifier.isOn keyField) with
  | some qualifier => .ok qualifier
  | none => .error (.qualifierNotFound keyField)

/-- The value of the first qualifier on the key field that is bound to one. -/
def keyValue (keyField : String) (qualifiers : List Qualifier) : Except QueryError Json :=
  match (qualifiers.filter (Qualifier.isOn keyField)).findSome? fun qualifier =>
    qualifier.value1.bind Operand.literal? with
  | some value => .ok value
  | none => .error (.keyValueNotFound keyField)

/-! ### Choosing the path -/

/-- The path for the members of a conjunction: exactly one is on the key field, and it fixes the
key. -/
def conjunctionPath (keyField : String) (members : List Qualifier) : AccessPath :=
  match members.filter (Qualifier.isOn keyField) with
  | [only] =>
      if only.fixesKey keyField then
        if members.length = 1 then .byKey else .byKeyFiltered
      else .scan
  | _ => .scan

def Criteria.accessPath (keyField : String) (criteria : Criteria) : AccessPath :=
  if criteria.isOnKey keyField then
    if criteria.root.fixesKey keyField then .byKey else .scan
  else if criteria.root.operator = .and ∧ criteria.hasKeyMember keyField = true then
    conjunctionPath keyField (criteria.nested?.getD [])
  else .scan

/-- The conditions that are left to the store when records are read by key. -/
def Criteria.remainingFilters (keyField : String) (criteria : Criteria) :
    AccessPath → List Qualifier
  | .byKeyFiltered => withoutKey keyField criteria.qualifierList
  | _ => []

end KeyedQuery
