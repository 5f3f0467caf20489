import KeyedQuery.KeyArgument
import KeyedQuery.Observed

/-!
Reads by key.

A batch of keys is one call for all of them, in their order, and a single key is a call for that
key. Without a key there is nothing to ask, and the read fails.
-/

set_option autoImplicit false

namespace KeyedQuery

/-- Read records by the given keys. The filters are left to the store. -/
def readKeys (store : Store) (source target : RecordType) (argument : Option KeyArgument)
    (filters : List Qualifier) : Observed (Except QueryError (List Json)) :=
  match argument with
  | none => pure (.error .nullKey)
  | some (.batch keys) => do
      Observed.log (Log.Event.keyReadBatch.traceEntry
        [("filters", Nat.repr filters.length), ("ids", Nat.repr keys.length),
          ("source", source.name)])
      Observed.ask store (.readMany keys source target filters)
  | some (.single key) => do
      Observed.log (Log.Event.keyReadSingle.traceEntry
        [("filters", Nat.repr filters.length), ("source", source.name)])
      Observed.ask store (.readOne key source target filters)

/-- The counter of a read by the given keys. A read without a key is not counted. -/
def countKeyRead : Option KeyArgument → Observed Unit
  | none => pure ()
  | some (.batch _) => Observed.count .batchReads
  | some (.single _) => Observed.count .singleReads

end KeyedQuery
