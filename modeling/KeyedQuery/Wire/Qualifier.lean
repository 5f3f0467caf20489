import KeyedQuery.Criteria
import KeyedQuery.Json.Record

/-!
The JSON form of qualifiers and criteria.

`toJson` writes and `ofDocument?` reads. A qualifier is an object in which members that are absent
are left out; it is a group exactly when it has qualifiers of its own, be it none. Criteria are
written as their root.
-/

set_option autoImplicit false

namespace KeyedQuery

open Json (Document)

namespace Operator

def wireName : Operator → String
  | .and => "AND"
  | .or => "OR"
  | .equal => "EQ"
  | .notEqual => "NOT_EQ"
  | .among => "IN"
  | .notAmong => "NOT_IN"
  | .between => "BETWEEN"
  | .greater => "GT"
  | .greaterOrEqual => "GTE"
  | .less => "LT"
  | .lessOrEqual => "LTE"
  | .startsWith => "STARTS_WITH"
  | .endsWith => "ENDS_WITH"
  | .containing => "CONTAINING"
  | .isNull => "IS_NULL"
  | .isNotNull => "IS_NOT_NULL"

def ofWireName? (name : String) : Option Operator :=
  all.find? fun operator => operator.wireName == name

theorem ofWireName?_wireName (operator : Operator) :
    ofWireName? operator.wireName = some operator := by
  cases operator <;> decide

def toJson (operator : Operator) : Json :=
  .string operator.wireName

def ofDocument? (document : Document) : Option Operator :=
  document.choice?.bind ofWireName?

end Operator

namespace Operand

def kindName : String :=
  "kind"

def contentsName : String :=
  "value"

def toJson : Operand → Json
  | .literal value => .object [(kindName, .string "literal"), (contentsName, value)]
  | .expression source => .object [(kindName, .string "expression"), (contentsName, .string source)]

def ofContents? (kind : String) (contents : Document) : Option Operand :=
  if kind = "literal" then contents.value?.map .literal
  else if kind = "expression" then contents.string?.map .expression
  else none

/-- The kind that a document names. Where the operand is written as an array, only a string does. -/
def kind? (operand kind : Document) : Option String :=
  match operand with
  | .array _ => kind.string?
  | _ => kind.choice?

def ofDocument? (document : Document) : Option Operand :=
  match document.record? [kindName, contentsName] 2 with
  | none => none
  | some fields =>
      match fields.required? kindName (kind? document), fields.lookup contentsName with
      | some kind, some contents => ofContents? kind contents
      | _, _ => none

end Operand

namespace Qualifier

def memberNames : List String :=
  ["field", "operator", "value1", "value2", "qualifiers"]

/-- A member that is left out when there is nothing to write. -/
def optionalMember (name : String) : Option Json → List (String × Json)
  | none => []
  | some value => [(name, value)]

def memberJson (condition : Condition) (nested : Option (List Json)) : Json :=
  .object
    (optionalMember "field" (condition.field.map .string) ++
      [("operator", condition.operator.toJson)] ++
      optionalMember "qualifiers" (nested.map .array) ++
      optionalMember "value1" (condition.value1.map Operand.toJson) ++
      optionalMember "value2" (condition.value2.map Operand.toJson))

mutual

def toJson : Qualifier → Json
  | .leaf condition => memberJson condition none
  | .group head nested => memberJson head (some (listToJson nested))

def listToJson : List Qualifier → List Json
  | [] => []
  | qualifier :: rest => toJson qualifier :: listToJson rest

end

def conditionOfFields? (fields : Document.FieldList) : Option Condition := do
  let field ← fields.optional? "field" Document.string?
  let operator ← fields.required? "operator" Operator.ofDocument?
  let value1 ← fields.optional? "value1" Operand.ofDocument?
  let value2 ← fields.optional? "value2" Operand.ofDocument?
  return ⟨field, operator, value1, value2⟩

mutual

def ofDocument? (document : Document) : Option Qualifier :=
  match _ : document.record? memberNames 2 with
  | none => none
  | some fields =>
      match conditionOfFields? fields with
      | none => none
      | some condition =>
          match _ : fields.lookup "qualifiers" with
          | none => some (.leaf condition)
          | some .null => some (.leaf condition)
          | some (.array items) => (ofDocuments? items).map (.group condition)
          | some _ => none
termination_by sizeOf document
decreasing_by
  have smaller := Document.sizeOf_lt_of_lookup_record? ‹_› ‹_›
  simp only [Document.array.sizeOf_spec] at smaller
  omega

def ofDocuments? (documents : List Document) : Option (List Qualifier) :=
  match documents with
  | [] => some []
  | document :: rest =>
      match ofDocument? document, ofDocuments? rest with
      | some qualifier, some qualifiers => some (qualifier :: qualifiers)
      | _, _ => none
termination_by sizeOf documents

end

end Qualifier

namespace Criteria

def toJson (criteria : Criteria) : Json :=
  criteria.root.toJson

def ofDocument? (document : Document) : Option Criteria :=
  (Qualifier.ofDocument? document).map Criteria.mk

end Criteria

end KeyedQuery
