import KeyedQuery.Operator
import KeyedQuery.OrderBy

/-!
What a query method asks for, before its arguments are known.

An intent is a list of branches of which one has to hold; a branch is a list of parts of which all
have to hold; a part compares one property.
-/

set_option autoImplicit false

namespace KeyedQuery

structure Part where
  property : String
  operator : Operator
deriving DecidableEq

def Part.arity (part : Part) : Nat :=
  part.operator.arity

def Part.totalArity : List Part → Nat
  | [] => 0
  | part :: rest => part.arity + totalArity rest

structure Branch where
  parts : List Part
deriving DecidableEq

def Branch.arity (branch : Branch) : Nat :=
  Part.totalArity branch.parts

structure Intent where
  tree : List Branch
  distinct : Bool
  maxResults : Option UInt64
  order : OrderBy
deriving DecidableEq

namespace Intent

def ofTree (tree : List Branch) : Intent :=
  ⟨tree, false, none, .unsorted⟩

def ofParts (parts : List Part) : Intent :=
  ofTree [⟨parts⟩]

def withDistinct (intent : Intent) (distinct : Bool) : Intent :=
  { intent with distinct := distinct }

def withMaxResults (intent : Intent) (maxResults : UInt64) : Intent :=
  { intent with maxResults := some maxResults }

def withOrder (intent : Intent) (order : OrderBy) : Intent :=
  { intent with order := order }

def isLimiting (intent : Intent) : Bool :=
  intent.maxResults.isSome

end Intent

end KeyedQuery
