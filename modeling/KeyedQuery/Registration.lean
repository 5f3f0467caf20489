import KeyedQuery.BoundQuery
import KeyedQuery.Config
import KeyedQuery.Observed
import KeyedQuery.ParameterContext

/-!
Registered query methods.

A method is registered once, with its intent and the way in which intents are bound, and is then
invoked any number of times. Only an accepted configuration leads to a registration.
-/

set_option autoImplicit false

namespace KeyedQuery

abbrev Binder : Type :=
  Intent → Arguments → BoundQuery

/-- How the values of an invocation provide variables for deferred operands. -/
abbrev ContextProvider : Type :=
  List Parameter → List Json → EvaluationContext

structure Registration where
  method : Method
  intent : Intent
  binder : Binder
  contextProvider : ContextProvider
  config : Config
  accepted : config.validate = .ok ()

namespace Registration

def register (method : Method) (intent : Intent) (binder : Binder) (config : Config) :
    Observed (Except QueryError Registration) :=
  match accepted : config.validate with
  | .error cause => pure (.error cause)
  | .ok () => do
      Observed.log (Log.Event.methodRegistered.entry
        [("entity", method.entity.name), ("method", method.name)])
      return .ok ⟨method, intent, binder, parameterContext, config, accepted⟩

/-- Register a method whose intent is read off its declaration. -/
def registerParsed (method : Method) (parse : Method → Intent) (binder : Binder)
    (config : Config) : Observed (Except QueryError Registration) :=
  register method (parse method) binder config

def withContextProvider (registration : Registration) (contextProvider : ContextProvider) :
    Registration :=
  { registration with contextProvider := contextProvider }

def keyField (registration : Registration) : String :=
  registration.config.keyField

/-! ### Methods with given criteria or a given intent -/

/-- A method whose criteria are the given ones, whatever its arguments are. -/
def ofCriteria (criteria : Criteria) : Registration :=
  { method := .declare "find" ⟨"Person"⟩
    intent := .ofTree []
    binder := fun _ _ => ⟨criteria, .unsorted⟩
    contextProvider := parameterContext
    config := {}
    accepted := rfl }

/-- A method whose intent is bound in the usual way. -/
def ofIntent (intent : Intent) : Registration :=
  { ofCriteria ⟨.allOf []⟩ with
    intent := intent
    binder := Intent.bind }

end Registration

end KeyedQuery
