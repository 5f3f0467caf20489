import KeyedQuery.EvaluationContext
import KeyedQuery.Method

/-!
The variables that the parameters of a method provide.

Every value is bound under the decimal spelling of its position, and after that under the name of
each parameter whose index it has. A later binding of a name replaces an earlier one.
-/

set_option autoImplicit false

namespace KeyedQuery

/-- Bind values under the spellings of their positions, counted from the given one. -/
def EvaluationContext.bindPositions (context : EvaluationContext) :
    Nat → List Json → EvaluationContext
  | _, [] => context
  | position, value :: rest =>
      (context.bind (Nat.repr position) value).bindPositions (position + 1) rest

/-- Bind each parameter whose index is that of a value. -/
def EvaluationContext.bindParameters (context : EvaluationContext) (values : List Json) :
    List Parameter → EvaluationContext
  | [] => context
  | parameter :: rest =>
      match values[parameter.index.toNat]? with
      | some value => (context.bind parameter.name value).bindParameters values rest
      | none => context.bindParameters values rest

def parameterContext (parameters : List Parameter) (values : List Json) : EvaluationContext :=
  (EvaluationContext.empty.bindPositions 0 values).bindParameters values parameters

end KeyedQuery
