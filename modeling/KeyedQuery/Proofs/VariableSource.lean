import KeyedQuery.Proofs.Accounts
import KeyedQuery.Proofs.Deferral

/-!
Where the values beside the arguments go.

An invocation is given values twice, with its arguments and beside them. Those beside them become
the variables of the plan, if it has any, and nothing else: the explanation, the type of the records
and a read by key are the same for all such values and for every way of making variables of them,
and a scan gets a plan that differs in its variables at most.
-/

set_option autoImplicit false

namespace KeyedQuery

/-! ### Plans that differ in their variables -/

/-- The plans differ at most in what their variables are bound to: both have some, or neither. -/
structure Plan.SameBesideVariables (left right : Plan) : Prop where
  criteria : left.criteria = right.criteria
  offset : left.offset = right.offset
  rows : left.rows = right.rows
  order : left.order = right.order
  distinct : left.distinct = right.distinct
  limit : left.limit = right.limit
  context : left.context.isSome = right.context.isSome

namespace Plan.SameBesideVariables

variable {left right : Plan} (same : left.SameBesideVariables right) (registration : Registration)
include same

theorem explain_eq (path : AccessPath) (target : RecordType) :
    left.explain path target = right.explain path target := by
  have paged : left.isPaged = right.isPaged := by
    unfold isPaged
    rw [same.offset, same.rows]
  have limited : left.isLimited = right.isLimited := by
    unfold isLimited
    rw [same.limit]
  unfold explain
  rw [paged, limited, same.criteria, same.offset, same.rows, same.order, same.distinct, same.limit,
    same.context]

theorem preparedEntry_eq : registration.preparedEntry left = registration.preparedEntry right := by
  unfold Registration.preparedEntry
  rw [same.criteria, same.offset, same.rows, same.order, same.distinct, same.limit]

theorem accessPath_eq : registration.accessPath left = registration.accessPath right := by
  unfold Registration.accessPath
  rw [same.criteria]

/-- A read by key takes the criteria of the plan and nothing else. -/
theorem follow_eq_of_reads {path : AccessPath} (reads : path.readsByKey = true)
    (target : RecordType) (store : Store) :
    registration.follow left path target store = registration.follow right path target store := by
  unfold Registration.follow Registration.readByKey
  rw [if_pos reads, if_pos reads, same.criteria]

end Plan.SameBesideVariables

/-- Two steps with the same trace may have different values, if the same is done next. -/
theorem Observed.bind_congr {Value Next : Type} {left right : Observed Value}
    {leftNext rightNext : Value → Observed Next} (entries : left.entries = right.entries)
    (calls : left.calls = right.calls) (counted : left.counted = right.counted)
    (next : leftNext left.value = rightNext right.value) :
    left >>= leftNext = right >>= rightNext := by
  change Observed.mk _ _ _ _ = Observed.mk _ _ _ _
  rw [entries, calls, counted, next]

/-! ### Invocations with other values and another way of making variables -/

namespace Registration

variable (registration : Registration) (provider : ContextProvider)
  (parameters otherParameters : List Json) (arguments : Arguments) (store : Store)

theorem prepare_sameBesideVariables :
    (registration.prepare parameters arguments).value.SameBesideVariables
      ((registration.withContextProvider provider).prepare otherParameters arguments).value := by
  constructor
  case context =>
    rw [isSome_context_prepare, isSome_context_prepare, criteria_prepare, criteria_prepare]
    rfl
  case offset => rw [value_prepare, value_prepare]
  case rows => rw [value_prepare, value_prepare]
  all_goals
    rw [value_prepare, value_prepare]
    rfl

theorem entries_prepare_eq :
    (registration.prepare parameters arguments).entries =
      ((registration.withContextProvider provider).prepare otherParameters arguments).entries := by
  have same := registration.prepare_sameBesideVariables provider parameters otherParameters
    arguments
  rw [entries_prepare, entries_prepare, same.preparedEntry_eq registration]
  rfl

theorem explain_eq :
    registration.explain parameters arguments =
      (registration.withContextProvider provider).explain otherParameters arguments := by
  have same := registration.prepare_sameBesideVariables provider parameters otherParameters
    arguments
  have path := same.accessPath_eq registration
  apply Observed.bind_congr
  case entries => apply entries_prepare_eq
  case calls => rfl
  case counted => rfl
  case next =>
    apply Observed.bind_congr rfl rfl rfl
    exact congrArg pure ((same.explain_eq _ _).trans (congrArg (Plan.explain _ · _) path))

/-- A read by key is the same in every respect. -/
theorem execute_eq_of_reads
    (reads : (registration.accessPath
      (registration.prepare parameters arguments).value).readsByKey = true) :
    registration.execute parameters arguments store =
      (registration.withContextProvider provider).execute otherParameters arguments store := by
  have same := registration.prepare_sameBesideVariables provider parameters otherParameters
    arguments
  have path := same.accessPath_eq registration
  have followed := (same.follow_eq_of_reads registration reads
    (registration.chosenType arguments) store).trans
      (congrArg (registration.follow _ · (registration.chosenType arguments) store) path)
  apply Observed.bind_congr
  case entries => apply entries_prepare_eq
  case calls => rfl
  case counted => rfl
  case next =>
    apply Observed.bind_congr rfl rfl rfl
    apply Observed.bind_congr
    case entries =>
      exact congrArg (fun taken : AccessPath => [Log.Event.queryClassified.entry
        [("method", registration.method.name), ("shape", taken.name)]]) path
    case calls => rfl
    case counted => rfl
    case next =>
      exact congrArg (fun outcome : Observed (Except QueryError (List Json)) => do
        let result ← outcome
        registration.reportFailure result
        return result) followed

/-- The scan has the plan, and what the store makes of it is the store's own affair. Otherwise all is
the same. -/
theorem execute_eq_or_scans :
    registration.execute parameters arguments store =
        (registration.withContextProvider provider).execute otherParameters arguments store ∨
      ∃ plan otherPlan,
        (registration.execute parameters arguments store).Asks store
          (some (.scan plan registration.method.entity (registration.chosenType arguments))) ∧
        ((registration.withContextProvider provider).execute otherParameters arguments store).Asks
          store
          (some (.scan otherPlan registration.method.entity
            (registration.chosenType arguments))) := by
  have same := registration.prepare_sameBesideVariables provider parameters otherParameters
    arguments
  cases reads : (registration.accessPath
      (registration.prepare parameters arguments).value).readsByKey with
  | true =>
      exact Or.inl (registration.execute_eq_of_reads provider parameters otherParameters arguments
        store reads)
  | false =>
      have scans := AccessPath.eq_scan_of_not_readsByKey reads
      have otherScans := (same.accessPath_eq registration).symm.trans scans
      exact Or.inr ⟨_, _, asks_execute_of_scan _ store parameters arguments scans,
        asks_execute_of_scan _ store otherParameters arguments otherScans⟩

theorem counters_of_calls_eq :
    (registration.execute parameters arguments store).calls.map Call.counter =
      ((registration.withContextProvider provider).execute otherParameters arguments
        store).calls.map Call.counter := by
  rcases registration.execute_eq_or_scans provider parameters otherParameters arguments store with
    same | ⟨plan, otherPlan, asks, otherAsks⟩
  · rw [same]
  · rw [asks.calls, otherAsks.calls]
    rfl

/-- A store that answers every call alike lets no difference be seen in the result. -/
theorem value_execute_eq (answer : Except QueryError (List Json)) :
    (registration.execute parameters arguments fun _ => answer).value =
      ((registration.withContextProvider provider).execute otherParameters arguments
        fun _ => answer).value := by
  rcases registration.execute_eq_or_scans provider parameters otherParameters arguments
    (fun _ => answer) with same | ⟨plan, otherPlan, asks, otherAsks⟩
  · rw [same]
  · rw [asks.answer, otherAsks.answer]
    rfl

end Registration

/-- Neither the values beside the arguments nor the way of making variables of them reach anything
but the variables of the plan. Whatever a store answers, the same is counted; a store that fails
with the variables of one plan of a scan and not with those of the other adds that failure. -/
theorem values_beside_arguments_reach_only_variables (registration : Registration)
    (leftProvider rightProvider : ContextProvider) (leftParameters rightParameters : List Json)
    (arguments : Arguments) (store : Store) :
    let left := registration.withContextProvider leftProvider
    let right := registration.withContextProvider rightProvider
    let leftPlan := (left.prepare leftParameters arguments).value
    let rightPlan := (right.prepare rightParameters arguments).value
    let source := registration.method.entity
    let target := registration.chosenType arguments
    let leftOutcome := left.execute leftParameters arguments store
    let rightOutcome := right.execute rightParameters arguments store
    leftPlan.SameBesideVariables rightPlan ∧
    (left.prepare leftParameters arguments).counted =
      (right.prepare rightParameters arguments).counted ∧
    left.explain leftParameters arguments = right.explain rightParameters arguments ∧
    left.targetType arguments = right.targetType arguments ∧
    left.accessPath leftPlan = right.accessPath rightPlan ∧
    ((left.accessPath leftPlan).readsByKey = true → leftOutcome = rightOutcome) ∧
    (left.accessPath leftPlan = .scan →
      leftOutcome.calls = [.scan leftPlan source target] ∧
        rightOutcome.calls = [.scan rightPlan source target]) ∧
    (∀ answer, (left.execute leftParameters arguments fun _ => answer).counted =
      (right.execute rightParameters arguments fun _ => answer).counted) ∧
    ∃ counted,
      leftOutcome.counted = counted ++ (Answer.records leftOutcome.value).counted ∧
      rightOutcome.counted = counted ++ (Answer.records rightOutcome.value).counted := by
  intro left right leftPlan rightPlan source target leftOutcome rightOutcome
  have same : leftPlan.SameBesideVariables rightPlan :=
    left.prepare_sameBesideVariables rightProvider leftParameters rightParameters arguments
  have path : left.accessPath leftPlan = right.accessPath rightPlan := same.accessPath_eq left
  have kinds (store : Store) :
      (left.execute leftParameters arguments store).calls.map Call.counter =
        (right.execute rightParameters arguments store).calls.map Call.counter :=
    left.counters_of_calls_eq rightProvider leftParameters rightParameters arguments store
  refine ⟨same, rfl, ?_, rfl, path, ?_, ?_, ?_, ?_⟩
  · exact left.explain_eq rightProvider leftParameters rightParameters arguments
  · exact left.execute_eq_of_reads rightProvider leftParameters rightParameters arguments store
  · intro isScan
    have leftAsks := left.asks_execute_of_scan store leftParameters arguments isScan
    have rightAsks := right.asks_execute_of_scan store rightParameters arguments
      (path.symm.trans isScan)
    exact ⟨leftAsks.calls, rightAsks.calls⟩
  · intro answer
    have sameValue : (left.execute leftParameters arguments fun _ => answer).value =
        (right.execute rightParameters arguments fun _ => answer).value :=
      left.value_execute_eq rightProvider leftParameters rightParameters arguments answer
    rw [left.counted_execute, right.counted_execute, kinds, sameValue]
  · refine ⟨.plansPrepared :: leftOutcome.calls.map Call.counter,
      left.counted_execute leftParameters arguments store, ?_⟩
    rw [kinds store]
    exact right.counted_execute rightParameters arguments store

end KeyedQuery
