/-!
The order in which a query returns its records.

An order is a list of keys, the most significant first. Without keys the order is left open.
-/

set_option autoImplicit false

namespace KeyedQuery

inductive Direction where
  | ascending
  | descending
deriving DecidableEq

def Direction.name : Direction → String
  | .ascending => "asc"
  | .descending => "desc"

structure OrderKey where
  field : String
  direction : Direction
deriving DecidableEq

def OrderKey.text (key : OrderKey) : String :=
  key.field ++ " " ++ key.direction.name

structure OrderBy where
  keys : List OrderKey
deriving DecidableEq

namespace OrderBy

def unsorted : OrderBy :=
  ⟨[]⟩

/-- The order with one more, least significant key. -/
def andThen (order : OrderBy) (key : OrderKey) : OrderBy :=
  ⟨order.keys ++ [key]⟩

def isSorted (order : OrderBy) : Bool :=
  !order.keys.isEmpty

def keyTexts (order : OrderBy) : List String :=
  order.keys.map OrderKey.text

end OrderBy

end KeyedQuery
