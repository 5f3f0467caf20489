import KeyedQuery.Proofs.StoreCalls
import KeyedQuery.Session

/-!
What the log and the past of a method leave alone.

Whether queries are logged, how severe an entry must be to be written, and what was asked before
are all seen in the log and in the counters only. Two sessions whose methods differ in nothing else
stay so whatever is done in either, and give the same answers with the same calls.
-/

set_option autoImplicit false

namespace KeyedQuery

/-! ### Observed values that differ in their log -/

/-- The same value came about in the same way, but for the entries in the log. -/
structure Observed.SameBesideLog {Value : Type} (left right : Observed Value) : Prop where
  value : left.value = right.value
  calls : left.calls = right.calls
  counted : left.counted = right.counted

namespace Observed.SameBesideLog

variable {Value Next : Type} {left right : Observed Value}

theorem refl (observed : Observed Value) : observed.SameBesideLog observed :=
  ⟨rfl, rfl, rfl⟩

theorem bind {leftNext rightNext : Value → Observed Next} (first : left.SameBesideLog right)
    (next : ∀ value, (leftNext value).SameBesideLog (rightNext value)) :
    (left >>= leftNext).SameBesideLog (right >>= rightNext) := by
  have second := next right.value
  constructor
  · rw [value_bind, value_bind, first.value, second.value]
  · rw [calls_bind, calls_bind, first.calls, first.value, second.calls]
  · rw [counted_bind, counted_bind, first.counted, first.value, second.counted]

end Observed.SameBesideLog

/-! ### Methods that differ in whether queries are logged -/

namespace Registration

/-- The registrations agree on everything but on whether queries are logged. -/
structure SameQueries (left right : Registration) : Prop where
  method : left.method = right.method
  intent : left.intent = right.intent
  binder : left.binder = right.binder
  contextProvider : left.contextProvider = right.contextProvider
  keyField : left.keyField = right.keyField

def withLogging (registration : Registration) (logQueries : Bool) : Registration :=
  { registration with
    config := { registration.config with logQueries }
    accepted := registration.accepted }

theorem SameQueries.eq_withLogging {left right : Registration} (same : left.SameQueries right) :
    right = left.withLogging right.config.logQueries := by
  obtain ⟨method, intent, binder, contextProvider, ⟨keyField, logQueries⟩, accepted⟩ := right
  obtain ⟨sameMethod, sameIntent, sameBinder, sameProvider, sameField⟩ := same
  cases sameMethod
  cases sameIntent
  cases sameBinder
  cases sameProvider
  cases sameField
  rfl

variable (registration : Registration) (logQueries : Bool) (parameters : List Json)
  (arguments : Arguments) (store : Store)

theorem prepare_withLogging :
    (registration.prepare parameters arguments).SameBesideLog
      ((registration.withLogging logQueries).prepare parameters arguments) :=
  ⟨rfl, rfl, rfl⟩

theorem targetType_withLogging :
    (registration.targetType arguments).SameBesideLog
      ((registration.withLogging logQueries).targetType arguments) :=
  ⟨rfl, rfl, rfl⟩

theorem explain_withLogging :
    (registration.explain parameters arguments).SameBesideLog
      ((registration.withLogging logQueries).explain parameters arguments) := by
  unfold explain
  apply (registration.prepare_withLogging logQueries parameters arguments).bind
  intro plan
  apply (registration.targetType_withLogging logQueries arguments).bind
  intro target
  exact .refl _

/-- Behind the plan and the target an execution does not ask whether queries are logged. -/
theorem execute_withLogging :
    (registration.execute parameters arguments store).SameBesideLog
      ((registration.withLogging logQueries).execute parameters arguments store) := by
  unfold execute
  apply (registration.prepare_withLogging logQueries parameters arguments).bind
  intro plan
  apply (registration.targetType_withLogging logQueries arguments).bind
  intro target
  exact .refl _

theorem answer_withLogging (request : Request) :
    (registration.answer request).SameBesideLog
      ((registration.withLogging logQueries).answer request) := by
  cases request with
  | prepare parameters arguments =>
      apply (registration.prepare_withLogging logQueries parameters arguments).bind
      intro plan
      exact .refl _
  | explain parameters arguments =>
      apply (registration.explain_withLogging logQueries parameters arguments).bind
      intro explanation
      exact .refl _
  | execute parameters arguments store =>
      apply (registration.execute_withLogging logQueries parameters arguments store).bind
      intro result
      exact .refl _

namespace SameQueries

variable {left right : Registration}

theorem answer (same : left.SameQueries right) (request : Request) :
    (left.answer request).SameBesideLog (right.answer request) := by
  rw [same.eq_withLogging]
  exact left.answer_withLogging _ request

theorem targetType (same : left.SameQueries right) (arguments : Arguments) :
    (left.targetType arguments).SameBesideLog (right.targetType arguments) := by
  rw [same.eq_withLogging]
  exact left.targetType_withLogging _ arguments

end SameQueries

end Registration

/-! ### Sessions -/

namespace Session

theorem registration_after (session : Session) (command : Command) :
    (session.after command).registration = session.registration := by
  cases command with
  | ask request => rfl
  | setThreshold threshold => rfl

/-- Nothing that is done with a method changes what is registered. -/
theorem registration_afterAll (session : Session) (history : List Command) :
    (session.afterAll history).registration = session.registration := by
  induction history generalizing session with
  | nil => rfl
  | cons command rest ih =>
      have first : session.afterAll (command :: rest) = (session.after command).afterAll rest := rfl
      rw [first, ih, registration_after]

/-- What two sessions make of one thing: the same value with the same calls, and the same count on
top of what each had counted before. -/
structure Alike {Value : Type} (left right : Session) (leftDone rightDone : Performed Value) :
    Prop where
  value : leftDone.value = rightDone.value
  calls : leftDone.calls = rightDone.calls
  counted : ∃ counted,
    leftDone.session.counters = left.counters.afterAll counted ∧
      rightDone.session.counters = right.counters.afterAll counted

theorem alike_perform {Value : Type} {leftObserved rightObserved : Observed Value}
    (same : leftObserved.SameBesideLog rightObserved) (left right : Session) :
    Alike left right (left.perform leftObserved) (right.perform rightObserved) := by
  refine ⟨same.value, same.calls, leftObserved.counted, rfl, ?_⟩
  rw [same.counted]
  rfl

end Session

/-- Two sessions of one method, of which one may log its queries and the other not, answer every
request alike and choose the same type of records, whatever is written in either and whatever was
done in either before. -/
theorem logging_and_history_change_no_answer (left right : Session)
    (same : left.registration.SameQueries right.registration)
    (leftHistory rightHistory : List Command) :
    let leftNow := left.afterAll leftHistory
    let rightNow := right.afterAll rightHistory
    (∀ request,
      Session.Alike leftNow rightNow (leftNow.answer request) (rightNow.answer request)) ∧
    ∀ arguments, Session.Alike leftNow rightNow
      (leftNow.perform (leftNow.registration.targetType arguments))
      (rightNow.perform (rightNow.registration.targetType arguments)) := by
  intro leftNow rightNow
  have still : leftNow.registration.SameQueries rightNow.registration := by
    have leftStays : leftNow.registration = left.registration :=
      left.registration_afterAll leftHistory
    have rightStays : rightNow.registration = right.registration :=
      right.registration_afterAll rightHistory
    rw [leftStays, rightStays]
    exact same
  constructor
  · intro request
    exact Session.alike_perform (still.answer request) leftNow rightNow
  · intro arguments
    exact Session.alike_perform (still.targetType arguments) leftNow rightNow

/-- One session has written all that there is, a refused key and a failed read included; the other
is new and silent. A read that fails is the same in both. -/
theorem silent_session_answers_alike :
    let registration := Registration.ofIntent (.ofParts [⟨"id", .equal⟩])
    let fails : Store := fun _ => .error (.execution "down")
    let read : Request := .execute [] (.ofValues [.string "p1"]) fails
    let spoken : Session := { registration, threshold := .info }
    let silent : Session := { registration := registration.withLogging false, threshold := .error }
    let history : List Command :=
      [.setThreshold .trace, .ask (.execute [] (.ofValues [.null]) fails), .ask read,
        .ask (.explain [] .empty)]
    let spokenNow := spoken.afterAll history
    registration.SameQueries silent.registration ∧
      spokenNow.counters.failures = 2 ∧ silent.counters.failures = 0 ∧
      (spokenNow.answer read).value = (silent.answer read).value ∧
      (spokenNow.answer read).calls = (silent.answer read).calls ∧
      (silent.answer read).calls.length = 1 := by
  intro registration fails read spoken silent history spokenNow
  have same : registration.SameQueries silent.registration := ⟨rfl, rfl, rfl, rfl, rfl⟩
  have alike := (logging_and_history_change_no_answer spoken silent same history []).1 read
  exact ⟨same, by decide, rfl, alike.value, alike.calls, rfl⟩

end KeyedQuery
