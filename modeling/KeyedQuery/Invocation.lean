import KeyedQuery.Explanation
import KeyedQuery.KeyRead
import KeyedQuery.Registration

/-!
Invocations of registered query methods.

An invocation binds the intent, assembles a plan, chooses an access path and asks the store once.
The values from which variables are made are given beside the arguments. `prepare` stops at the
plan and `explain` at the path.
-/

set_option autoImplicit false

namespace KeyedQuery.Registration

/-! ### The plan -/

/-- The plan with the part of the result that is asked for: the requested page, or else the
greatest number of records that the intent has. -/
def boundResult (intent : Intent) (pageable : Pageable) (plan : Plan) : Plan :=
  match pageable, intent.maxResults with
  | .paged offset pageSize, _ => plan.withPaging offset pageSize
  | .unpaged, some maxResults => plan.withLimit maxResults
  | .unpaged, none => plan

/-- The plan of an invocation. The caller's order goes before that of the bound query, and there
are variables only if the criteria require them. -/
def assemble (registration : Registration) (parameters : List Json) (arguments : Arguments) :
    Plan :=
  let bound := registration.binder registration.intent arguments
  let order := if arguments.order.isSorted then arguments.order else bound.order
  let plan :=
    ((boundResult registration.intent arguments.pageable (.ofCriteria bound.criteria)).withDistinct
      registration.intent.distinct).withOrder order
  if bound.criteria.requiresEvaluation then
    plan.withContext (registration.contextProvider registration.method.parameters parameters)
  else plan

def preparedEntry (registration : Registration) (plan : Plan) : Log.Entry :=
  Log.Event.queryPrepared.entry
    [("criteria", plan.criteria.field),
      ("distinct", if plan.distinct then "true" else "false"),
      ("limit", Nat.repr plan.limit.toNat),
      ("method", registration.method.name),
      ("offset", Decimal.integerText plan.offset.toInt),
      ("rows", Decimal.integerText plan.rows.toInt),
      ("sort", String.intercalate "," plan.order.keyTexts)]

def prepare (registration : Registration) (parameters : List Json) (arguments : Arguments) :
    Observed Plan := do
  let plan := registration.assemble parameters arguments
  Observed.count .plansPrepared
  Observed.logWhen registration.config.logQueries (registration.preparedEntry plan)
  return plan

/-! ### The type of the records -/

/-- The type that the caller chose, where there is a choice, and otherwise the declared one. -/
def chosenType (registration : Registration) (arguments : Arguments) : RecordType :=
  if registration.method.dynamicProjection then
    arguments.projection.getD registration.method.returned
  else registration.method.returned

def projectionIsMissing (registration : Registration) (arguments : Arguments) : Bool :=
  registration.method.dynamicProjection && arguments.projection.isNone

def targetType (registration : Registration) (arguments : Arguments) : Observed RecordType := do
  Observed.logWhen
    (registration.projectionIsMissing arguments && registration.config.logQueries)
    (Log.Event.projectionMissing.entry
      [("fallback", registration.method.returned.name), ("method", registration.method.name)])
  return registration.chosenType arguments

/-! ### The access path -/

def accessPath (registration : Registration) (plan : Plan) : AccessPath :=
  plan.criteria.accessPath registration.keyField

def explain (registration : Registration) (parameters : List Json) (arguments : Arguments) :
    Observed Explanation := do
  let plan ← registration.prepare parameters arguments
  let target ← registration.targetType arguments
  return plan.explain (registration.accessPath plan) target

/-! ### Execution -/

def readByKey (registration : Registration) (plan : Plan) (path : AccessPath)
    (target : RecordType) (store : Store) : Observed (Except QueryError (List Json)) :=
  match keyValue registration.keyField plan.criteria.qualifierList with
  | .error cause => pure (.error cause)
  | .ok value => do
      let argument := KeyArgument.ofValue? value
      countKeyRead argument
      readKeys store registration.method.entity target argument
        (plan.criteria.remainingFilters registration.keyField path)

def scan (registration : Registration) (plan : Plan) (target : RecordType) (store : Store) :
    Observed (Except QueryError (List Json)) := do
  Observed.count .scans
  Observed.log (Log.Event.predicateScan.entry [("method", registration.method.name)])
  Observed.ask store (.scan plan registration.method.entity target)

def follow (registration : Registration) (plan : Plan) (path : AccessPath) (target : RecordType)
    (store : Store) : Observed (Except QueryError (List Json)) :=
  if path.readsByKey then registration.readByKey plan path target store
  else registration.scan plan target store

def reportFailure (registration : Registration) :
    Except QueryError (List Json) → Observed Unit
  | .ok _ => pure ()
  | .error cause => do
      Observed.count .failures
      Observed.log (Log.Event.queryFailed.entry
        [("code", cause.code), ("message", cause.message),
          ("method", registration.method.name)])

def execute (registration : Registration) (parameters : List Json) (arguments : Arguments)
    (store : Store) : Observed (Except QueryError (List Json)) := do
  let plan ← registration.prepare parameters arguments
  let target ← registration.targetType arguments
  let path := registration.accessPath plan
  Observed.log (Log.Event.queryClassified.entry
    [("method", registration.method.name), ("shape", path.name)])
  let result ← registration.follow plan path target store
  registration.reportFailure result
  return result

end KeyedQuery.Registration
