import KeyedQuery.Json.Basic
import KeyedQuery.Method
import KeyedQuery.OrderBy
import KeyedQuery.Pageable

/-!
The arguments of one invocation of a query method.
-/

set_option autoImplicit false

namespace KeyedQuery

structure Arguments where
  values : List Json
  pageable : Pageable
  order : OrderBy
  /-- The type that the caller chooses for the records. -/
  projection : Option RecordType

namespace Arguments

def ofValues (values : List Json) : Arguments :=
  ⟨values, .unpaged, .unsorted, none⟩

def empty : Arguments :=
  ofValues []

def withPageable (arguments : Arguments) (pageable : Pageable) : Arguments :=
  { arguments with pageable := pageable }

def withOrder (arguments : Arguments) (order : OrderBy) : Arguments :=
  { arguments with order := order }

def withProjection (arguments : Arguments) (projection : RecordType) : Arguments :=
  { arguments with projection := some projection }

def value? (arguments : Arguments) (index : Nat) : Option Json :=
  arguments.values[index]?

def same (left right : Arguments) : Bool :=
  Json.sameItems left.values right.values && left.pageable == right.pageable &&
    left.order == right.order && left.projection == right.projection

instance : BEq Arguments := ⟨same⟩

end Arguments

end KeyedQuery
