import KeyedQuery.Intent
import KeyedQuery.Method
import KeyedQuery.Wire.Plan

/-!
The JSON form of methods and intents.

`toJson` writes and `ofDocument?` reads. Every field of a method has to be there; of an intent only
the greatest number of records may be absent or null, unless the intent is written as an array.
-/

set_option autoImplicit false

namespace KeyedQuery

open Json (Document)

namespace RecordType

def toJson (type : RecordType) : Json :=
  .string type.name

def ofDocument? (document : Document) : Option RecordType :=
  document.string?.map RecordType.mk

end RecordType

namespace Parameter

def toJson (parameter : Parameter) : Json :=
  .object [("index", uint64Json parameter.index), ("name", .string parameter.name)]

def ofDocument? (document : Document) : Option Parameter := do
  let fields ← document.record? ["name", "index"] 2
  let name ← fields.required? "name" Document.string?
  let index ← fields.required? "index" Document.uint64?
  return ⟨name, index⟩

end Parameter

namespace Method

def toJson (method : Method) : Json :=
  .object
    [("dynamic_projection", .bool method.dynamicProjection),
      ("entity_type", method.entity.toJson),
      ("name", .string method.name),
      ("parameters", .array (method.parameters.map Parameter.toJson)),
      ("returned_type", method.returned.toJson)]

def memberNames : List String :=
  ["name", "entity_type", "returned_type", "parameters", "dynamic_projection"]

def ofDocument? (document : Document) : Option Method := do
  let fields ← document.record? memberNames 5
  let name ← fields.required? "name" Document.string?
  let entity ← fields.required? "entity_type" RecordType.ofDocument?
  let returned ← fields.required? "returned_type" RecordType.ofDocument?
  let parameters ← fields.required? "parameters" (Document.list? Parameter.ofDocument?)
  let dynamicProjection ← fields.required? "dynamic_projection" Document.bool?
  return ⟨name, entity, returned, parameters, dynamicProjection⟩

end Method

namespace Part

def toJson (part : Part) : Json :=
  .object [("operator", part.operator.toJson), ("property", .string part.property)]

def ofDocument? (document : Document) : Option Part := do
  let fields ← document.record? ["property", "operator"] 2
  let property ← fields.required? "property" Document.string?
  let operator ← fields.required? "operator" Operator.ofDocument?
  return ⟨property, operator⟩

end Part

namespace Branch

def toJson (branch : Branch) : Json :=
  .object [("parts", .array (branch.parts.map Part.toJson))]

def ofDocument? (document : Document) : Option Branch := do
  let fields ← document.record? ["parts"] 1
  let parts ← fields.required? "parts" (Document.list? Part.ofDocument?)
  return ⟨parts⟩

end Branch

namespace Intent

def toJson (intent : Intent) : Json :=
  .object
    [("distinct", .bool intent.distinct),
      ("max_results", .ofOption (intent.maxResults.map uint64Json)),
      ("sort", intent.order.toJson),
      ("tree", .array (intent.tree.map Branch.toJson))]

def memberNames : List String :=
  ["tree", "distinct", "max_results", "sort"]

def ofDocument? (document : Document) : Option Intent := do
  let fields ← document.record? memberNames 4
  let tree ← fields.required? "tree" (Document.list? Branch.ofDocument?)
  let distinct ← fields.required? "distinct" Document.bool?
  let maxResults ← fields.optional? "max_results" Document.uint64?
  let order ← fields.required? "sort" OrderBy.ofDocument?
  return ⟨tree, distinct, maxResults, order⟩

end Intent

end KeyedQuery
