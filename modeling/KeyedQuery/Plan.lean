import KeyedQuery.Criteria
import KeyedQuery.EvaluationContext
import KeyedQuery.OrderBy
import KeyedQuery.Pageable

/-!
Query plans.

A plan says which records are wanted, in which order, and how many of them. Its offset and rows
are unset by the word minus one, and its limit by zero.
-/

set_option autoImplicit false

namespace KeyedQuery

def noLimit : UInt64 :=
  0

structure Plan where
  criteria : Criteria
  offset : Int64
  rows : Int64
  order : OrderBy
  distinct : Bool
  limit : UInt64
  /-- The variables for deferred operands, if the criteria need them. -/
  context : Option EvaluationContext

namespace Plan

def ofCriteria (criteria : Criteria) : Plan :=
  ⟨criteria, unset, unset, .unsorted, false, noLimit, none⟩

def withPaging (plan : Plan) (offset rows : Int64) : Plan :=
  { plan with offset := offset, rows := rows }

def withLimit (plan : Plan) (limit : UInt64) : Plan :=
  { plan with limit := limit }

def withOrder (plan : Plan) (order : OrderBy) : Plan :=
  { plan with order := order }

def withDistinct (plan : Plan) (distinct : Bool) : Plan :=
  { plan with distinct := distinct }

def withContext (plan : Plan) (context : EvaluationContext) : Plan :=
  { plan with context := some context }

def isPaged (plan : Plan) : Bool :=
  plan.offset != unset && plan.rows != unset

def isLimited (plan : Plan) : Bool :=
  plan.limit != noLimit

def same (left right : Plan) : Bool :=
  left.criteria == right.criteria && left.offset == right.offset && left.rows == right.rows &&
    left.order == right.order && left.distinct == right.distinct && left.limit == right.limit &&
    left.context == right.context

instance : BEq Plan := ⟨same⟩

end Plan

end KeyedQuery
