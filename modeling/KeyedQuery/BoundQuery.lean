import KeyedQuery.Arguments
import KeyedQuery.Criteria
import KeyedQuery.Intent

/-!
Intents bound to arguments.

The arguments are laid out along the parts of all branches, from left to right: each part takes as
many as its operator has operands, and an argument that is not there counts as null. A branch
without parts is left out, and a group of one is its only member.
-/

set_option autoImplicit false

namespace KeyedQuery

/-- Criteria with their operands filled in, and the order to use when the caller asks for none. -/
structure BoundQuery where
  criteria : Criteria
  order : OrderBy

def operandAt (arguments : List Json) (position : Nat) : Operand :=
  .ofArgument (arguments[position]?.getD .null)

/-- The leaf of a part, whose operands are the arguments in front. -/
def Part.bind (part : Part) (arguments : List Json) : Qualifier :=
  .leaf
    { field := some part.property
      operator := part.operator
      value1 := if 1 ≤ part.arity then some (operandAt arguments 0) else none
      value2 := if 2 ≤ part.arity then some (operandAt arguments 1) else none }

/-- The leaves of parts that take their arguments one after another. -/
def bindParts : List Part → List Json → List Qualifier
  | [], _ => []
  | part :: rest, arguments => part.bind arguments :: bindParts rest (arguments.drop part.arity)

/-- The only qualifier of a list, or the group of all of them. -/
def collapse (operator : Operator) : List Qualifier → Qualifier
  | [only] => only
  | qualifiers => .join operator qualifiers

def bindBranches : List Branch → List Json → List Qualifier
  | [], _ => []
  | branch :: rest, arguments =>
      let others := bindBranches rest (arguments.drop branch.arity)
      if branch.parts.isEmpty then others
      else collapse .and (bindParts branch.parts arguments) :: others

/-- The root qualifier of an intent. Without any parts it is the empty conjunction, which always
holds. -/
def Intent.bindRoot (intent : Intent) (arguments : List Json) : Qualifier :=
  match bindBranches intent.tree arguments with
  | [] => .allOf []
  | branches => collapse .or branches

def Intent.bind (intent : Intent) (arguments : Arguments) : BoundQuery :=
  ⟨⟨intent.bindRoot arguments.values⟩, intent.order⟩

end KeyedQuery
