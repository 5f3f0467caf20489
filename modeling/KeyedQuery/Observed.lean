import KeyedQuery.Counters
import KeyedQuery.Log.Entry
import KeyedQuery.Store

/-!
Values together with what was done to obtain them.

An observed value carries the log entries, the calls to the store and the counter increments of the
steps that led to it, each in the order in which they happened. Steps are sequenced by `bind`,
which joins their traces: `entries_bind`, `calls_bind` and `counted_bind` say how.
-/

set_option autoImplicit false

namespace KeyedQuery

/-- A value and the trace of obtaining it. -/
structure Observed (Value : Type) where
  value : Value
  entries : List Log.Entry := []
  calls : List Call := []
  counted : List Counter := []

namespace Observed

variable {Value Next : Type}

/-- Continue with a step that needs the value; the traces follow each other. -/
def andThen (first : Observed Value) (next : Value → Observed Next) : Observed Next :=
  let second := next first.value
  { value := second.value
    entries := first.entries ++ second.entries
    calls := first.calls ++ second.calls
    counted := first.counted ++ second.counted }

instance : Monad Observed where
  pure value := { value }
  bind := andThen

section Laws

variable (first : Observed Value) (next : Value → Observed Next) (value : Value)

@[simp] theorem value_pure : (pure value : Observed Value).value = value := rfl

@[simp] theorem entries_pure : (pure value : Observed Value).entries = [] := rfl

@[simp] theorem calls_pure : (pure value : Observed Value).calls = [] := rfl

@[simp] theorem counted_pure : (pure value : Observed Value).counted = [] := rfl

@[simp] theorem value_bind : (first >>= next).value = (next first.value).value := rfl

@[simp] theorem entries_bind :
    (first >>= next).entries = first.entries ++ (next first.value).entries := rfl

@[simp] theorem calls_bind :
    (first >>= next).calls = first.calls ++ (next first.value).calls := rfl

@[simp] theorem counted_bind :
    (first >>= next).counted = first.counted ++ (next first.value).counted := rfl

end Laws

def log (entry : Log.Entry) : Observed Unit :=
  { value := (), entries := [entry] }

def logWhen (condition : Bool) (entry : Log.Entry) : Observed Unit :=
  { value := (), entries := if condition then [entry] else [] }

def count (counter : Counter) : Observed Unit :=
  { value := (), counted := [counter] }

def ask (store : Store) (call : Call) : Observed (Except QueryError (List Json)) :=
  { value := store call, calls := [call] }

end Observed

end KeyedQuery
