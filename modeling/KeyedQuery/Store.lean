import KeyedQuery.Method
import KeyedQuery.Plan
import KeyedQuery.QueryError

/-!
The store that holds the records, as a query sees it.

A store answers three kinds of calls. Reads by key get the keys and the conditions that are still
to be checked, but no plan; a scan gets the plan.
-/

set_option autoImplicit false

namespace KeyedQuery

/-- What a query asks of a store. Every call names the entity type that is read and the type of
the records that are returned. -/
inductive Call where
  | readOne (key : Json) (source target : RecordType) (filters : List Qualifier)
  | readMany (keys : List Json) (source target : RecordType) (filters : List Qualifier)
  | scan (plan : Plan) (source target : RecordType)

/-- A store: the records, or the failure, with which a call is answered. -/
abbrev Store : Type :=
  Call → Except QueryError (List Json)

end KeyedQuery
