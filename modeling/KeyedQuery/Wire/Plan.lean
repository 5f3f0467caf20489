import KeyedQuery.Explanation
import KeyedQuery.Wire.Qualifier

/-!
The JSON form of plans and of what they are made of.

`toJson` writes and `ofDocument?` reads. Orders and requests for a page are written and read; plans,
variables and explanations are only written.
-/

set_option autoImplicit false

namespace KeyedQuery

open Json (Document)

def int64Json (value : Int64) : Json :=
  .ofInt value.toInt

def uint64Json (value : UInt64) : Json :=
  .ofNat value.toNat

namespace Direction

def toJson (direction : Direction) : Json :=
  .string direction.name

def ofDocument? (document : Document) : Option Direction :=
  document.choice?.bind fun name =>
    if name = "asc" then some .ascending
    else if name = "desc" then some .descending
    else none

end Direction

namespace OrderKey

def toJson (key : OrderKey) : Json :=
  .object [("direction", key.direction.toJson), ("field", .string key.field)]

def ofDocument? (document : Document) : Option OrderKey := do
  let fields ← document.record? ["field", "direction"] 2
  let field ← fields.required? "field" Document.string?
  let direction ← fields.required? "direction" Direction.ofDocument?
  return ⟨field, direction⟩

end OrderKey

namespace OrderBy

def toJson (order : OrderBy) : Json :=
  .array (order.keys.map OrderKey.toJson)

def ofDocument? (document : Document) : Option OrderBy :=
  (document.list? OrderKey.ofDocument?).map OrderBy.mk

end OrderBy

namespace Pageable

def toJson : Pageable → Json
  | .unpaged => .string "Unpaged"
  | .paged offset pageSize =>
      .object [("Paged",
        .object [("offset", int64Json offset), ("page_size", int64Json pageSize)])]

def ofContents? (contents : Document) : Option Pageable := do
  let fields ← contents.record? ["offset", "page_size"] 2
  let offset ← fields.required? "offset" Document.int64?
  let pageSize ← fields.required? "page_size" Document.int64?
  return .paged offset pageSize

def ofDocument? (document : Document) : Option Pageable :=
  match document with
  | .object [(some name, contents)] =>
      if name = "Paged" then ofContents? contents
      else if document.choice? = some "Unpaged" then some .unpaged
      else none
  | _ => if document.choice? = some "Unpaged" then some .unpaged else none

end Pageable

def EvaluationContext.toJson (context : EvaluationContext) : Json :=
  .object [("variables", .object context.bindings.entries)]

def Plan.toJson (plan : Plan) : Json :=
  .object
    ([("criteria", plan.criteria.toJson), ("distinct", .bool plan.distinct)] ++
      Qualifier.optionalMember "evaluation_context" (plan.context.map EvaluationContext.toJson) ++
      [("limit", uint64Json plan.limit), ("offset", int64Json plan.offset),
        ("rows", int64Json plan.rows), ("sort", plan.order.toJson)])

def Explanation.toJson (explanation : Explanation) : Json :=
  .object
    [("access_path", .string explanation.accessPath),
      ("combinator", .ofOption (explanation.combinator.map .string)),
      ("deferred", .bool explanation.deferred),
      ("distinct", .bool explanation.distinct),
      ("limit", .ofOption (explanation.limit.map uint64Json)),
      ("offset", .ofOption (explanation.offset.map int64Json)),
      ("qualifiers", .array (explanation.qualifiers.map .string)),
      ("rows", .ofOption (explanation.rows.map int64Json)),
      ("sort", .array (explanation.order.map .string)),
      ("target_type", .string explanation.targetType)]

end KeyedQuery
