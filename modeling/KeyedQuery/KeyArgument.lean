import KeyedQuery.Json.Basic

/-!
The keys of a read by key.

The kind of the value decides: an array is a batch of keys, null is no key, and any other value is
one key. The operator that the value was bound to plays no part.
-/

set_option autoImplicit false

namespace KeyedQuery

inductive KeyArgument where
  | single (key : Json)
  | batch (keys : List Json)

namespace KeyArgument

/-- The keys that a value stands for, unless it is null. -/
def ofValue? : Json → Option KeyArgument
  | .null => none
  | .array items => some (.batch items)
  | key => some (.single key)

def keys : KeyArgument → List Json
  | .single key => [key]
  | .batch keys => keys

def size (argument : KeyArgument) : Nat :=
  argument.keys.length

def isBatch : KeyArgument → Bool
  | .single _ => false
  | .batch _ => true

end KeyArgument

end KeyedQuery
