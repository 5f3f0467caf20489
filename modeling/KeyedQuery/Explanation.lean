import KeyedQuery.AccessPath
import KeyedQuery.Json.Printer
import KeyedQuery.Method
import KeyedQuery.Plan

/-!
Explanations of plans for people.

An explanation says which path a plan takes and what it asks for. Its text is made of lines, one
for each thing that the plan sets.
-/

set_option autoImplicit false

namespace KeyedQuery

def Operand.text : Operand → String
  | .literal value => value.compact
  | .expression source => "$\x7b" ++ source ++ "\x7d"

/-- The text of a leaf: its field, its operator and its operands. A second operand is shown only
behind a first one. -/
def Condition.text (condition : Condition) : String :=
  let subject := condition.field.getD "" ++ " " ++ condition.operator.name
  match condition.value1, condition.value2 with
  | some first, some second => subject ++ " " ++ first.text ++ " " ++ second.text
  | some first, none => subject ++ " " ++ first.text
  | none, _ => subject

namespace Qualifier

mutual

/-- The text of a qualifier. A group is the texts of its members between parentheses, with its
operator between them. -/
def text : Qualifier → String
  | .leaf condition => condition.text
  | .group head nested =>
      "(" ++ String.intercalate (" " ++ head.operator.name ++ " ") (texts nested) ++ ")"

def texts : List Qualifier → List String
  | [] => []
  | qualifier :: rest => text qualifier :: texts rest

end

end Qualifier

structure Explanation where
  accessPath : String
  targetType : String
  qualifiers : List String
  combinator : Option String
  order : List String
  offset : Option Int64
  rows : Option Int64
  limit : Option UInt64
  distinct : Bool
  deferred : Bool
deriving DecidableEq

def Plan.explain (plan : Plan) (path : AccessPath) (target : RecordType) : Explanation where
  accessPath := path.name
  targetType := target.name
  qualifiers := plan.criteria.qualifierList.map Qualifier.text
  combinator :=
    if plan.criteria.root.isGroup then some plan.criteria.root.operator.name else none
  order := plan.order.keyTexts
  offset := if plan.isPaged then some plan.offset else none
  rows := if plan.isPaged then some plan.rows else none
  limit := if plan.isLimited then some plan.limit else none
  distinct := plan.distinct
  deferred := plan.context.isSome

namespace Explanation

def qualifierLines (explanation : Explanation) : List String :=
  match explanation.qualifiers with
  | [] => []
  | qualifiers =>
      let heading :=
        match explanation.combinator with
        | some operator => "Qualifiers (" ++ operator ++ "):"
        | none => "Qualifiers:"
      heading :: qualifiers.map fun qualifier => "  - " ++ qualifier

def resultLines (explanation : Explanation) : List String :=
  let order :=
    match explanation.order with
    | [] => []
    | keys => ["Sort: " ++ String.intercalate ", " keys]
  let page :=
    match explanation.offset, explanation.rows with
    | some offset, some rows =>
        ["Page: offset " ++ Decimal.integerText offset.toInt ++ " rows " ++
          Decimal.integerText rows.toInt]
    | _, _ => []
  let limit :=
    match explanation.limit with
    | some limit => ["Limit: " ++ Nat.repr limit.toNat]
    | none => []
  let distinct := if explanation.distinct then ["Distinct: yes"] else []
  let deferred := if explanation.deferred then ["Deferred operands: yes"] else []
  order ++ page ++ limit ++ distinct ++ deferred

def lines (explanation : Explanation) : List String :=
  ["=== EXPLAIN PLAN ===", "Access Path: " ++ explanation.accessPath,
    "Target: " ++ explanation.targetType] ++
    explanation.qualifierLines ++ explanation.resultLines

def text (explanation : Explanation) : String :=
  String.join (explanation.lines.map fun line => line ++ "\n")

end Explanation

end KeyedQuery
