import KeyedQuery.Proofs.KeyRead
import KeyedQuery.Proofs.LogLine
import KeyedQuery.Session

/-!
The log as the trace of what was done.

Whoever reads the log of a request learns what was done for it: that a plan was made and that a
type was not chosen, where queries are logged, then the access path, every call with the number of
keys and filters that it hands over, and the failure. `request_writes_its_trace` says that these
are all the lines, in this order, and on which channel each of them is found. Read as JSON, the lines
give the entries back (`Session.Writes.read_back`).
-/

set_option autoImplicit false

namespace KeyedQuery

/-! ### Entries and the lines that are written -/

/-- The request writes the lines of the entries that are severe enough, in their order: errors to
their own channel, and everything else to the output. -/
structure Session.Writes (session : Session) (request : Request) (entries : List Log.Entry) :
    Prop where
  output : (session.answer request).session.output = session.output ++
    (entries.filter fun entry =>
      session.threshold.rank ≤ entry.severity.rank ∧ entry.severity ≠ .error).map Log.Entry.line
  errors : (session.answer request).session.errors = session.errors ++
    (entries.filter fun entry =>
      session.threshold.rank ≤ entry.severity.rank ∧ entry.severity = .error).map Log.Entry.line

theorem Log.written_output (threshold : Severity) (entries : List Entry) :
    written threshold .output entries =
      (entries.filter fun entry =>
        threshold.rank ≤ entry.severity.rank ∧ entry.severity ≠ .error).map Entry.line := by
  unfold written
  congr 2
  funext entry
  unfold Severity.enabledAt Entry.channel
  by_cases failure : entry.severity = .error <;> simp [failure]

theorem Log.written_errors (threshold : Severity) (entries : List Entry) :
    written threshold .errors entries =
      (entries.filter fun entry =>
        threshold.rank ≤ entry.severity.rank ∧ entry.severity = .error).map Entry.line := by
  unfold written
  congr 2
  funext entry
  unfold Severity.enabledAt Entry.channel
  by_cases failure : entry.severity = .error <;> simp [failure]

theorem Session.writes_of_entries_eq {session : Session} {request : Request}
    {entries : List Log.Entry}
    (observed : (session.registration.answer request).entries = entries) :
    session.Writes request entries := by
  subst observed
  exact ⟨congrArg (session.output ++ ·) (Log.written_output _ _),
    congrArg (session.errors ++ ·) (Log.written_errors _ _)⟩

/-- The object of an entry: the event, the severity and the fields sorted by their keys. -/
def Log.Entry.document (entry : Entry) : Json.Document :=
  .object (entry.members.map fun member => (some member.1, .string member.2))

theorem Log.Entry.map_ofText?_line (entries : List Entry) :
    (entries.map line).map Json.Document.ofText? = entries.map fun entry => some entry.document := by
  rw [List.map_map]
  exact List.map_congr_left fun entry _ => entry.ofText?_line

/-- The lines that a request adds are read as the objects of its entries, one by one. -/
theorem Session.Writes.read_back {session : Session} {request : Request}
    {entries : List Log.Entry} (writes : session.Writes request entries) :
    ∃ output errors,
      (session.answer request).session.output = session.output ++ output ∧
      (session.answer request).session.errors = session.errors ++ errors ∧
      output.map Json.Document.ofText? =
        (entries.filter fun entry => session.threshold.rank ≤ entry.severity.rank ∧
          entry.severity ≠ .error).map (fun entry => some entry.document) ∧
      errors.map Json.Document.ofText? =
        (entries.filter fun entry => session.threshold.rank ≤ entry.severity.rank ∧
          entry.severity = .error).map (fun entry => some entry.document) :=
  ⟨_, _, writes.output, writes.errors, Log.Entry.map_ofText?_line _, Log.Entry.map_ofText?_line _⟩

/-! ### What is traced -/

/-- The entry of a call. A read by key tells how many filters, and how many keys, it hands over. -/
def Call.entry (method : Method) : Call → Log.Entry
  | .scan _ _ _ => ⟨.info, "PREDICATE_SCAN", [("method", method.name)]⟩
  | .readMany keys source _ filters =>
      ⟨.trace, "ID_LOOKUP_BATCH",
        [("filters", Nat.repr filters.length), ("ids", Nat.repr keys.length),
          ("source", source.name)]⟩
  | .readOne _ source _ filters =>
      ⟨.trace, "ID_LOOKUP_SINGLE",
        [("filters", Nat.repr filters.length), ("source", source.name)]⟩

def failureEntries (method : Method) : Except QueryError (List Json) → List Log.Entry
  | .ok _ => []
  | .error cause =>
      [⟨.error, "QUERY_FAILED",
        [("code", cause.code), ("message", cause.message), ("method", method.name)]⟩]

/-- The step has an entry for each of its calls, and no other entries. -/
def Observed.TracesCalls {Value : Type} (method : Method) (observed : Observed Value) : Prop :=
  observed.entries = observed.calls.map (Call.entry method)

namespace Observed.TracesCalls

variable {Value Next : Type} {method : Method}

theorem bind {first : Observed Value} {next : Value → Observed Next}
    (traces : first.TracesCalls method) (onward : (next first.value).TracesCalls method) :
    (first >>= next).TracesCalls method := by
  unfold TracesCalls
  rw [entries_bind, calls_bind, List.map_append, traces, onward]

end Observed.TracesCalls

theorem tracesCalls_readKeys (method : Method) (store : Store) (source target : RecordType)
    (argument : Option KeyArgument) (filters : List Qualifier) :
    (readKeys store source target argument filters).TracesCalls method := by
  cases argument with
  | none => rfl
  | some keys =>
      cases keys with
      | single key => rfl
      | batch keys => rfl

theorem tracesCalls_countKeyRead (method : Method) (argument : Option KeyArgument) :
    (countKeyRead argument).TracesCalls method := by
  cases argument with
  | none => rfl
  | some keys => cases keys <;> rfl

namespace Registration

variable (registration : Registration) (parameters : List Json) (arguments : Arguments)

theorem tracesCalls_follow (plan : Plan) (path : AccessPath) (target : RecordType)
    (store : Store) :
    (registration.follow plan path target store).TracesCalls registration.method := by
  unfold follow
  split
  · unfold readByKey
    split
    · rfl
    · exact (tracesCalls_countKeyRead _ _).bind (tracesCalls_readKeys _ store _ target _ _)
  · rfl

theorem entries_reportFailure (result : Except QueryError (List Json)) :
    (registration.reportFailure result).entries = failureEntries registration.method result := by
  cases result with
  | ok records => rfl
  | error cause => rfl

/-- The entry of a prepared plan, if queries are logged. -/
def planEntries (plan : Plan) : List Log.Entry :=
  if registration.config.logQueries then
    [⟨.info, "QUERY_PREPARED", (registration.preparedEntry plan).fields⟩]
  else []

/-- The entry of a type that the caller was free to choose and did not, if queries are logged. -/
def typeEntries : List Log.Entry :=
  if registration.config.logQueries ∧ registration.method.dynamicProjection ∧
      arguments.projection = none then
    [⟨.warn, "PROJECTION_MISSING",
      [("fallback", registration.method.returned.name), ("method", registration.method.name)]⟩]
  else []

def pathEntry (path : AccessPath) : Log.Entry :=
  ⟨.info, "QUERY_CLASSIFIED", [("method", registration.method.name), ("shape", path.name)]⟩

theorem entries_prepare_eq_planEntries :
    (registration.prepare parameters arguments).entries =
      registration.planEntries (registration.prepare parameters arguments).value :=
  registration.entries_prepare parameters arguments

theorem entries_targetType :
    (registration.targetType arguments).entries = registration.typeEntries arguments := by
  have observed : (registration.targetType arguments).entries =
      if registration.projectionIsMissing arguments && registration.config.logQueries then
        [⟨.warn, "PROJECTION_MISSING",
          [("fallback", registration.method.returned.name), ("method", registration.method.name)]⟩]
      else [] := List.append_nil _
  rw [observed]
  unfold typeEntries projectionIsMissing
  simp only [Bool.and_eq_true, Option.isNone_iff_eq_none, and_comm]

theorem entries_explain :
    (registration.explain parameters arguments).entries =
      registration.planEntries (registration.prepare parameters arguments).value ++
        registration.typeEntries arguments := by
  have observed : (registration.explain parameters arguments).entries =
      (registration.prepare parameters arguments).entries ++
        ((registration.targetType arguments).entries ++ []) := rfl
  rw [observed, entries_prepare_eq_planEntries, entries_targetType, List.append_nil]

theorem entries_execute (store : Store) :
    let outcome := registration.execute parameters arguments store
    let plan := (registration.prepare parameters arguments).value
    outcome.entries =
      registration.planEntries plan ++ registration.typeEntries arguments ++
        registration.pathEntry (registration.accessPath plan) ::
          (outcome.calls.map (Call.entry registration.method) ++
            failureEntries registration.method outcome.value) := by
  intro outcome plan
  let followed := registration.follow plan (registration.accessPath plan)
    (registration.chosenType arguments) store
  have calls : outcome.calls =
      followed.calls ++ ((registration.reportFailure followed.value).calls ++ []) := rfl
  have value : outcome.value = followed.value := rfl
  have traced : followed.entries = followed.calls.map (Call.entry registration.method) :=
    registration.tracesCalls_follow plan _ _ store
  have observed : outcome.entries =
      (registration.prepare parameters arguments).entries ++
        ((registration.targetType arguments).entries ++
          (registration.pathEntry (registration.accessPath plan) ::
            (followed.entries ++
              ((registration.reportFailure followed.value).entries ++ [])))) := rfl
  rw [observed, calls, value, traced, entries_prepare_eq_planEntries, entries_targetType,
    entries_reportFailure, calls_reportFailure, List.append_nil, List.append_nil, List.append_nil,
    List.append_assoc]

end Registration

/-- What is called on each path. Where records are read by key, the one literal on the key field
decides: a null calls nothing, an array is a batch of keys, and everything else is one key. -/
theorem Route.calls_cases {keyField : String} {plan : Plan} {source target : RecordType}
    {store : Store} {outcome : Observed (Except QueryError (List Json))}
    (route : Route keyField plan source target store outcome) :
    let path := plan.criteria.accessPath keyField
    let filters := plan.criteria.remainingFilters keyField path
    (path = .scan ∧ outcome.calls = [.scan plan source target]) ∨
      (path.readsByKey = true ∧ ∃ key, plan.criteria.KeyLiteral keyField key ∧
        ((key = .null ∧ outcome.calls = []) ∨
          (∃ keys, key = .array keys ∧ outcome.calls = [.readMany keys source target filters]) ∨
          (key.isNull = false ∧ key.items? = none ∧
            outcome.calls = [.readOne key source target filters]))) := by
  intro path filters
  cases route with
  | scanned isScan asks => exact Or.inl ⟨isScan, asks.calls⟩
  | @read before after condition key split conjunction asks =>
      have handedOver : filters = before ++ after := split.remainingFilters_eq conjunction
      refine Or.inr ⟨split.readsByKey conjunction, key, (split.keyLiteral_iff key).mpr rfl, ?_⟩
      rw [handedOver]
      cases asks.readsKey with
      | batch called => exact Or.inr (Or.inl ⟨_, rfl, called⟩)
      | single notNull notArray called => exact Or.inr (Or.inr ⟨notNull, notArray, called⟩)
      | refused notCalled => exact Or.inl ⟨rfl, notCalled⟩

/-- The lines of a request are those of its trace. Where queries are logged, a plan that is made
and a type that is not chosen come first; an execution goes on with its path, with its call, if it
makes one, and with its failure, if it fails. -/
theorem request_writes_its_trace (session : Session) (parameters : List Json)
    (arguments : Arguments) (store : Store) :
    let registration := session.registration
    let plan := (registration.prepare parameters arguments).value
    let path := registration.accessPath plan
    let source := registration.method.entity
    let target := (registration.targetType arguments).value
    let filters := plan.criteria.remainingFilters registration.keyField path
    let outcome := registration.execute parameters arguments store
    let planned := registration.planEntries plan
    let typed := registration.typeEntries arguments
    session.Writes (.execute parameters arguments store)
      (planned ++ typed ++ registration.pathEntry path ::
        (outcome.calls.map (Call.entry registration.method) ++
          failureEntries registration.method outcome.value)) ∧
    ((path = .scan ∧ outcome.calls = [.scan plan source target]) ∨
      (path.readsByKey = true ∧ ∃ key, plan.criteria.KeyLiteral registration.keyField key ∧
        ((key = .null ∧ outcome.calls = []) ∨
          (∃ keys, key = .array keys ∧ outcome.calls = [.readMany keys source target filters]) ∨
          (key.isNull = false ∧ key.items? = none ∧
            outcome.calls = [.readOne key source target filters])))) ∧
    session.Writes (.explain parameters arguments) (planned ++ typed) ∧
    session.Writes (.prepare parameters arguments) planned := by
  intro registration plan path source target filters outcome planned typed
  refine ⟨?_, (registration.route_execute parameters arguments store).calls_cases, ?_, ?_⟩
  · apply Session.writes_of_entries_eq
    exact (List.append_nil _).trans (registration.entries_execute parameters arguments store)
  · apply Session.writes_of_entries_eq
    exact (List.append_nil _).trans (registration.entries_explain parameters arguments)
  · apply Session.writes_of_entries_eq
    exact (List.append_nil _).trans
      (registration.entries_prepare_eq_planEntries parameters arguments)

end KeyedQuery
