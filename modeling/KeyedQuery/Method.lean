/-!
Query methods as they are declared.

A method belongs to an entity type and returns that type, another declared type, or a type that
its caller chooses.
-/

set_option autoImplicit false

namespace KeyedQuery

structure RecordType where
  name : String
deriving DecidableEq

namespace RecordType

def sort (types : List RecordType) : List RecordType :=
  types.mergeSort fun earlier later => decide (earlier.name ≤ later.name)

def distinct (types : List RecordType) : List RecordType :=
  (sort types).eraseDups

end RecordType

structure Parameter where
  name : String
  /-- The position of its argument, counted from zero. -/
  index : UInt64
deriving DecidableEq

structure Method where
  name : String
  entity : RecordType
  returned : RecordType
  parameters : List Parameter
  /-- Whether the caller may choose the type of the records. -/
  dynamicProjection : Bool
deriving DecidableEq

namespace Method

def declare (name : String) (entity : RecordType) : Method :=
  ⟨name, entity, entity, [], false⟩

def returning (method : Method) (returned : RecordType) : Method :=
  { method with returned := returned }

/-- The method with one more parameter, whose index is its position. -/
def withParameter (method : Method) (name : String) : Method :=
  let parameter : Parameter := ⟨name, UInt64.ofNat method.parameters.length⟩
  { method with parameters := method.parameters ++ [parameter] }

def withDynamicProjection (method : Method) : Method :=
  { method with dynamicProjection := true }

end Method

end KeyedQuery
