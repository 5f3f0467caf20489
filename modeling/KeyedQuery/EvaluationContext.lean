import KeyedQuery.Operand
import KeyedQuery.Text.Blank

/-!
The variables against which deferred operands are resolved.

An expression names a variable behind one of the markers `#` and `?`; blanks around it do not
count. An expression of any other form is not resolved here.
-/

set_option autoImplicit false

namespace KeyedQuery

structure EvaluationContext where
  bindings : Dictionary Json

namespace EvaluationContext

def empty : EvaluationContext :=
  ⟨.empty⟩

def bind (context : EvaluationContext) (name : String) (value : Json) : EvaluationContext :=
  ⟨context.bindings.insert name value⟩

def get? (context : EvaluationContext) (name : String) : Option Json :=
  context.bindings.get? name

def size (context : EvaluationContext) : Nat :=
  context.bindings.size

def same (left right : EvaluationContext) : Bool :=
  Json.sameMembers left.bindings.entries right.bindings.entries

instance : BEq EvaluationContext := ⟨same⟩

/-- The name of the variable that an expression refers to, if it has the form of a reference. -/
def referenceName? (source : String) : Option String :=
  match Text.trimChars source.toList with
  | marker :: name => if marker = '#' ∨ marker = '?' then some (String.ofList name) else none
  | [] => none

/-- The value of an operand: its own, or that of the variable it refers to. -/
def resolve (context : EvaluationContext) : Operand → Option Json
  | .literal value => some value
  | .expression source => (referenceName? source).bind context.get?

end EvaluationContext

end KeyedQuery
