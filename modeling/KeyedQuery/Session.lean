import KeyedQuery.Request

/-!
A registered method at work.

Around a method there are its counters, and the log with the least severity that is written to it.
What is asked of the method leaves its count and its lines there. `Session.perform_bind` says that
this is the same for all steps together as for one after another.
-/

set_option autoImplicit false

namespace KeyedQuery

structure Session where
  registration : Registration
  threshold : Log.Severity
  counters : Counters := {}
  output : List String := []
  errors : List String := []

/-- What is done with a registered method. The threshold may be set at any time. -/
inductive Command where
  | ask (request : Request)
  | setThreshold (threshold : Log.Severity)

/-- A value, the calls that were made for it, and the session behind it. -/
structure Performed (Value : Type) where
  value : Value
  calls : List Call
  session : Session

namespace Session

variable {Value Next : Type}

def perform (session : Session) (observed : Observed Value) : Performed Value where
  value := observed.value
  calls := observed.calls
  session :=
    { session with
      counters := session.counters.afterAll observed.counted
      output := session.output ++ Log.written session.threshold .output observed.entries
      errors := session.errors ++ Log.written session.threshold .errors observed.entries }

theorem perform_bind (session : Session) (first : Observed Value)
    (next : Value → Observed Next) :
    let before := session.perform first
    let after := before.session.perform (next before.value)
    session.perform (first >>= next) = { after with calls := before.calls ++ after.calls } := by
  intro before after
  simp only [before, after, perform, Observed.value_bind, Observed.calls_bind,
    Observed.counted_bind, Observed.entries_bind, Counters.afterAll, List.foldl_append,
    Log.written, List.filter_append, List.map_append, List.append_assoc]

def answer (session : Session) (request : Request) : Performed Answer :=
  session.perform (session.registration.answer request)

def after (session : Session) : Command → Session
  | .ask request => (session.answer request).session
  | .setThreshold threshold => { session with threshold }

def afterAll (session : Session) (history : List Command) : Session :=
  history.foldl after session

end Session

end KeyedQuery
