import KeyedQuery.Json.Basic

/-!
Operands of conditions.

An operand is either bound to a value or deferred: the text of an expression that is resolved
against an evaluation context when the query is executed.
-/

set_option autoImplicit false

namespace KeyedQuery

inductive Operand where
  | literal (value : Json)
  | expression (source : String)

namespace Operand

def literal? : Operand → Option Json
  | .literal value => some value
  | .expression _ => none

def isDeferred : Operand → Bool
  | .literal _ => false
  | .expression _ => true

def same : Operand → Operand → Bool
  | .literal left, .literal right => left == right
  | .expression left, .expression right => left == right
  | _, _ => false

instance : BEq Operand := ⟨same⟩

def expressionKey : String :=
  "$expr"

/-- The operand that an argument binds. Only an object with nothing but a text under
`expressionKey` is an expression; every other argument is a value. -/
def ofArgument (argument : Json) : Operand :=
  match argument with
  | .object [(key, .string source)] =>
      if key = expressionKey then .expression source else .literal argument
  | _ => .literal argument

def toArgument : Operand → Json
  | .literal value => value
  | .expression source => .object [(expressionKey, .string source)]

/-- Binding keeps the argument: it can be read off the operand again. -/
@[simp] theorem toArgument_ofArgument (argument : Json) :
    (ofArgument argument).toArgument = argument := by
  unfold ofArgument
  split
  · split
    · rename_i isKey
      rw [isKey]
      rfl
    · rfl
  · rfl

end Operand

def isDeferredOperand (operand : Option Operand) : Bool :=
  operand.any Operand.isDeferred

theorem isDeferredOperand_iff (operand : Option Operand) :
    isDeferredOperand operand = true ↔ ∃ source, operand = some (.expression source) := by
  cases operand with
  | none => simp [isDeferredOperand]
  | some present =>
      cases present with
      | literal value => simp [isDeferredOperand, Operand.isDeferred]
      | expression source => simp [isDeferredOperand, Operand.isDeferred]

end KeyedQuery
