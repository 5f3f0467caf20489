import KeyedQuery.Proofs.KeySplit
import KeyedQuery.Proofs.PlanContract

/-!
What an invocation asks of the store, and what it makes of the answer.

An invocation asks the store at most once and returns the answer as it is. It asks nothing only
when the criteria fix the key to null, and that is the only error of its own.
-/

set_option autoImplicit false

namespace KeyedQuery

/-! ### Calls -/

namespace KeyArgument

variable (value : Json)

theorem ofValue?_eq_none_iff : ofValue? value = none ↔ value = .null := by
  cases value <;> simp [ofValue?]

theorem ofValue?_eq_batch_iff (keys : List Json) :
    ofValue? value = some (.batch keys) ↔ value = .array keys := by
  cases value <;> simp [ofValue?]

theorem ofValue?_eq_single_iff (key : Json) :
    ofValue? value = some (.single key) ↔
      value = key ∧ key.isNull = false ∧ key.items? = none := by
  constructor
  · intro isSingle
    cases value <;> cases isSingle <;> exact ⟨rfl, rfl, rfl⟩
  · rintro ⟨same, notNull, notArray⟩
    subst same
    cases value with
    | null => cases notNull
    | array keys => cases notArray
    | bool truth => rfl
    | number number => rfl
    | string text => rfl
    | object members => rfl

end KeyArgument

namespace Call

def source : Call → RecordType
  | .readOne _ source _ _ => source
  | .readMany _ source _ _ => source
  | .scan _ source _ => source

def target : Call → RecordType
  | .readOne _ _ target _ => target
  | .readMany _ _ target _ => target
  | .scan _ _ target => target

def ofKeys (source target : RecordType) (filters : List Qualifier) : KeyArgument → Call
  | .single key => .readOne key source target filters
  | .batch keys => .readMany keys source target filters

variable (source target : RecordType) (filters : List Qualifier) (argument : KeyArgument)
  (value : Json)

theorem map_ofKeys_eq_readOne_iff (key : Json) :
    (KeyArgument.ofValue? value).map (ofKeys source target filters) =
        some (.readOne key source target filters) ↔
      value = key ∧ key.isNull = false ∧ key.items? = none := by
  rw [← KeyArgument.ofValue?_eq_single_iff]
  cases KeyArgument.ofValue? value with
  | none => simp
  | some argument => cases argument <;> simp [ofKeys]

theorem map_ofKeys_eq_readMany_iff (keys : List Json) :
    (KeyArgument.ofValue? value).map (ofKeys source target filters) =
        some (.readMany keys source target filters) ↔
      value = .array keys := by
  rw [← KeyArgument.ofValue?_eq_batch_iff]
  cases KeyArgument.ofValue? value with
  | none => simp
  | some argument => cases argument <;> simp [ofKeys]

theorem ofKeys_ne_scan (plan : Plan) :
    ofKeys source target filters argument ≠ .scan plan source target := by
  cases argument <;> simp [ofKeys]

theorem source_ofKeys : (ofKeys source target filters argument).source = source := by
  cases argument <;> rfl

theorem target_ofKeys : (ofKeys source target filters argument).target = target := by
  cases argument <;> rfl

end Call

/-! ### Outcomes -/

namespace Observed

/-- The outcome is the answer of the store to its only call, or the refusal to call without a
key. -/
structure Asks (store : Store) (call? : Option Call)
    (outcome : Observed (Except QueryError (List Json))) : Prop where
  calls : outcome.calls = call?.toList
  answer : outcome.value = (call?.map store).getD (.error .nullKey)

/-- Whether the store was not asked, and the error is that there is no key. -/
def rejectsNullKey (outcome : Observed (Except QueryError (List Json))) : Bool :=
  outcome.calls.isEmpty &&
    match outcome.value with
    | .ok _ => false
    | .error cause => decide (cause = .nullKey)

variable {store : Store} {call? : Option Call}
  {outcome : Observed (Except QueryError (List Json))}

theorem asks_ask (store : Store) (call : Call) : Asks store (some call) (ask store call) :=
  ⟨rfl, rfl⟩

/-- Steps that call nothing may come first. -/
theorem Asks.after {Value : Type} {first : Observed Value}
    {next : Value → Observed (Except QueryError (List Json))}
    (asks : Asks store call? (next first.value)) (quiet : first.calls = []) :
    Asks store call? (first >>= next) := by
  constructor
  · rw [calls_bind, quiet, List.nil_append]
    exact asks.calls
  · rw [value_bind]
    exact asks.answer

theorem Asks.reported (asks : Asks store call? outcome)
    {report : Except QueryError (List Json) → Observed Unit}
    (quiet : (report outcome.value).calls = []) :
    Asks store call? (do
      let result ← outcome
      report result
      return result) := by
  constructor
  · rw [calls_bind, calls_bind, quiet, asks.calls]
    simp
  · exact asks.answer

theorem Asks.calls_eq_nil_iff (asks : Asks store call? outcome) :
    outcome.calls = [] ↔ call? = none := by
  rw [asks.calls]
  cases call? <;> simp

theorem Asks.calls_eq_singleton_iff (asks : Asks store call? outcome) (call : Call) :
    outcome.calls = [call] ↔ call? = some call := by
  rw [asks.calls]
  cases call? <;> simp

theorem Asks.rejectsNullKey_iff (asks : Asks store call? outcome) :
    outcome.rejectsNullKey = true ↔ call? = none := by
  unfold rejectsNullKey
  rw [asks.calls, asks.answer]
  cases call? <;> simp

theorem Asks.length_le_one (asks : Asks store call? outcome) : outcome.calls.length ≤ 1 := by
  rw [asks.calls]
  cases call? <;> simp

theorem Asks.answer_of_mem (asks : Asks store call? outcome) {call : Call}
    (called : call ∈ outcome.calls) : call? = some call ∧ outcome.value = store call := by
  rw [asks.calls, Option.mem_toList] at called
  refine ⟨called, ?_⟩
  rw [asks.answer, called]
  rfl

theorem Asks.value_eq_error_iff (asks : Asks store call? outcome) (cause : QueryError) :
    outcome.value = .error cause ↔
      (outcome.calls = [] ∧ cause = .nullKey) ∨
        ∃ call ∈ outcome.calls, store call = .error cause := by
  rw [asks.calls, asks.answer]
  cases call? with
  | none => simp [eq_comm]
  | some call => simp

end Observed

/-! ### The steps of an invocation -/

theorem asks_readKeys (store : Store) (source target : RecordType) (argument : Option KeyArgument)
    (filters : List Qualifier) :
    (readKeys store source target argument filters).Asks store
      (argument.map (Call.ofKeys source target filters)) := by
  cases argument with
  | none => exact ⟨rfl, rfl⟩
  | some keys =>
      cases keys with
      | single key => exact Observed.Asks.after (Observed.asks_ask store _) rfl
      | batch keys => exact Observed.Asks.after (Observed.asks_ask store _) rfl

theorem calls_countKeyRead (argument : Option KeyArgument) : (countKeyRead argument).calls = [] := by
  cases argument with
  | none => rfl
  | some keys => cases keys <;> rfl

namespace Registration

variable (registration : Registration) (plan : Plan) (target : RecordType) (store : Store)

theorem asks_scan :
    (registration.scan plan target store).Asks store
      (some (.scan plan registration.method.entity target)) := by
  unfold scan
  refine Observed.Asks.after ?_ rfl
  refine Observed.Asks.after ?_ rfl
  exact Observed.asks_ask store _

theorem calls_reportFailure (result : Except QueryError (List Json)) :
    (registration.reportFailure result).calls = [] := by
  cases result <;> rfl

theorem asks_execute {parameters : List Json} {arguments : Arguments} {call? : Option Call}
    (follows : (registration.follow (registration.assemble parameters arguments)
      (registration.accessPath (registration.assemble parameters arguments))
      (registration.chosenType arguments) store).Asks store call?) :
    (registration.execute parameters arguments store).Asks store call? := by
  unfold execute
  refine Observed.Asks.after ?_ rfl
  refine Observed.Asks.after ?_ rfl
  refine Observed.Asks.after ?_ rfl
  exact follows.reported (registration.calls_reportFailure _)

theorem asks_readByKey {before after : List Qualifier} {condition : Condition} {value : Json}
    (split : KeySplit registration.keyField plan.criteria.qualifierList before condition value
      after)
    (conjunction : plan.criteria.isConjunction = true) :
    (registration.readByKey plan (registration.accessPath plan) target store).Asks store
      ((KeyArgument.ofValue? value).map
        (Call.ofKeys registration.method.entity target (before ++ after))) := by
  rw [split.readByKey_eq conjunction]
  refine Observed.Asks.after ?_ (calls_countKeyRead _)
  exact asks_readKeys store registration.method.entity target _ (before ++ after)

variable (parameters : List Json) (arguments : Arguments)

theorem criteria_prepare :
    (registration.prepare parameters arguments).value.criteria =
      (registration.binder registration.intent arguments).criteria := by
  rw [value_prepare]

theorem criteria_prepare_of_usual (usual : registration.binder = Intent.bind) :
    (registration.prepare parameters arguments).value.criteria =
      ⟨registration.intent.bindRoot arguments.values⟩ := by
  rw [criteria_prepare, usual]
  rfl

theorem asks_execute_of_scan
    (isScan : registration.accessPath (registration.prepare parameters arguments).value = .scan) :
    (registration.execute parameters arguments store).Asks store
      (some (.scan (registration.prepare parameters arguments).value registration.method.entity
        (registration.targetType arguments).value)) := by
  refine registration.asks_execute store ?_
  have follows : ∀ plan target, registration.follow plan .scan target store =
      registration.scan plan target store := fun _ _ => rfl
  change registration.accessPath (registration.assemble parameters arguments) = .scan at isScan
  rw [isScan, follows]
  exact registration.asks_scan _ _ store

theorem asks_execute_of_keySplit {before after : List Qualifier} {condition : Condition}
    {value : Json}
    (split : KeySplit registration.keyField
      (registration.prepare parameters arguments).value.criteria.qualifierList before condition
      value after)
    (conjunction :
      (registration.prepare parameters arguments).value.criteria.isConjunction = true) :
    (registration.execute parameters arguments store).Asks store
      ((KeyArgument.ofValue? value).map (Call.ofKeys registration.method.entity
        (registration.targetType arguments).value (before ++ after))) := by
  refine registration.asks_execute store ?_
  have reads : (registration.accessPath
      (registration.assemble parameters arguments)).readsByKey = true :=
    split.readsByKey conjunction
  unfold follow
  rw [if_pos reads]
  exact registration.asks_readByKey _ _ store split conjunction

end Registration

/-! ### The route to the store -/

/-- How the outcome of a plan came about: by a scan of the plan, or by a read of the keys that the
one literal on the key field stands for. -/
inductive Route (keyField : String) (plan : Plan) (source target : RecordType) (store : Store)
    (outcome : Observed (Except QueryError (List Json))) : Prop where
  | scanned (isScan : plan.criteria.accessPath keyField = .scan)
      (asks : outcome.Asks store (some (.scan plan source target)))
  | read {before after : List Qualifier} {condition : Condition} {value : Json}
      (split : KeySplit keyField plan.criteria.qualifierList before condition value after)
      (conjunction : plan.criteria.isConjunction = true)
      (asks : outcome.Asks store
        ((KeyArgument.ofValue? value).map (Call.ofKeys source target (before ++ after))))

theorem Registration.route_execute (registration : Registration) (parameters : List Json)
    (arguments : Arguments) (store : Store) :
    Route registration.keyField (registration.prepare parameters arguments).value
      registration.method.entity (registration.targetType arguments).value store
      (registration.execute parameters arguments store) := by
  cases reads : (registration.accessPath
      (registration.prepare parameters arguments).value).readsByKey with
  | false =>
      have isScan := AccessPath.eq_scan_of_not_readsByKey reads
      exact .scanned isScan (registration.asks_execute_of_scan store parameters arguments isScan)
  | true =>
      obtain ⟨conjunction, before, condition, value, after, split⟩ :=
        (Criteria.readsByKey_accessPath_iff registration.keyField _).mp reads
      exact .read split conjunction
        (registration.asks_execute_of_keySplit store parameters arguments split conjunction)

namespace Route

variable {keyField : String} {plan : Plan} {source target : RecordType} {store : Store}
  {outcome : Observed (Except QueryError (List Json))}

theorem exists_asks (route : Route keyField plan source target store outcome) :
    ∃ call?, outcome.Asks store call? := by
  cases route with
  | scanned _ asks => exact ⟨_, asks⟩
  | read _ _ asks => exact ⟨_, asks⟩

theorem types_of_mem (route : Route keyField plan source target store outcome) {call : Call}
    (called : call ∈ outcome.calls) : call.source = source ∧ call.target = target := by
  cases route with
  | scanned _ asks =>
      obtain ⟨isCall, _⟩ := asks.answer_of_mem called
      cases isCall
      exact ⟨rfl, rfl⟩
  | read _ _ asks =>
      obtain ⟨isCall, _⟩ := asks.answer_of_mem called
      obtain ⟨argument, _, same⟩ := Option.map_eq_some_iff.mp isCall
      subst same
      exact ⟨Call.source_ofKeys _ _ _ _, Call.target_ofKeys _ _ _ _⟩

theorem calls_eq_scan_iff (route : Route keyField plan source target store outcome) :
    outcome.calls = [.scan plan source target] ↔ plan.criteria.accessPath keyField = .scan := by
  cases route with
  | scanned isScan asks => exact iff_of_true ((asks.calls_eq_singleton_iff _).mpr rfl) isScan
  | read split conjunction asks =>
      rw [asks.calls_eq_singleton_iff, Option.map_eq_some_iff]
      constructor
      · rintro ⟨argument, _, same⟩
        exact absurd same (Call.ofKeys_ne_scan _ _ _ argument plan)
      · intro isScan
        exact absurd isScan (split.accessPath_ne_scan conjunction)

theorem calls_eq_readMany_iff (route : Route keyField plan source target store outcome)
    (keys : List Json) :
    outcome.calls = [.readMany keys source target
        (plan.criteria.remainingFilters keyField (plan.criteria.accessPath keyField))] ↔
      (plan.criteria.accessPath keyField).readsByKey = true ∧
        plan.criteria.KeyLiteral keyField (.array keys) := by
  cases route with
  | scanned isScan asks =>
      rw [asks.calls_eq_singleton_iff, isScan]
      simp [AccessPath.readsByKey]
  | read split conjunction asks =>
      rw [asks.calls_eq_singleton_iff, split.remainingFilters_eq conjunction,
        Call.map_ofKeys_eq_readMany_iff, split.keyLiteral_iff,
        and_iff_right (split.readsByKey conjunction), eq_comm]

theorem calls_eq_readOne_iff (route : Route keyField plan source target store outcome)
    (key : Json) :
    outcome.calls = [.readOne key source target
        (plan.criteria.remainingFilters keyField (plan.criteria.accessPath keyField))] ↔
      (plan.criteria.accessPath keyField).readsByKey = true ∧
        plan.criteria.KeyLiteral keyField key ∧ key.isNull = false ∧ key.items? = none := by
  cases route with
  | scanned isScan asks =>
      rw [asks.calls_eq_singleton_iff, isScan]
      simp [AccessPath.readsByKey]
  | read split conjunction asks =>
      rw [asks.calls_eq_singleton_iff, split.remainingFilters_eq conjunction,
        Call.map_ofKeys_eq_readOne_iff, split.keyLiteral_iff,
        and_iff_right (split.readsByKey conjunction)]
      exact and_congr_left' eq_comm

theorem calls_eq_nil_iff (route : Route keyField plan source target store outcome) :
    outcome.calls = [] ↔
      (plan.criteria.accessPath keyField).readsByKey = true ∧
        plan.criteria.KeyLiteral keyField .null := by
  cases route with
  | scanned isScan asks =>
      rw [asks.calls_eq_nil_iff, isScan]
      simp [AccessPath.readsByKey]
  | read split conjunction asks =>
      rw [asks.calls_eq_nil_iff, Option.map_eq_none_iff, KeyArgument.ofValue?_eq_none_iff,
        split.keyLiteral_iff, and_iff_right (split.readsByKey conjunction), eq_comm]

theorem exists_keyValue (route : Route keyField plan source target store outcome)
    (reads : (plan.criteria.accessPath keyField).readsByKey = true) :
    ∃ value, keyValue keyField plan.criteria.qualifierList = .ok value := by
  cases route with
  | scanned isScan _ =>
      rw [isScan] at reads
      cases reads
  | read split _ _ => exact ⟨_, split.keyValue_eq⟩

end Route

/-- The path decides between a scan and a read, and the one literal on the key field decides which
read it is. An answer of the store is returned unchanged, `nullKey` included. -/
theorem execute_asks_once (registration : Registration) (parameters : List Json)
    (arguments : Arguments) (store : Store) :
    let plan := (registration.prepare parameters arguments).value
    let source := registration.method.entity
    let target := (registration.targetType arguments).value
    let path := registration.accessPath plan
    let keyLiteral := plan.criteria.KeyLiteral registration.keyField
    let filters := plan.criteria.remainingFilters registration.keyField path
    let outcome := registration.execute parameters arguments store
    outcome.calls.length ≤ 1 ∧
    (∀ call ∈ outcome.calls,
      call.source = source ∧ call.target = target ∧ outcome.value = store call) ∧
    (outcome.calls = [.scan plan source target] ↔ path = .scan) ∧
    (∀ keys, outcome.calls = [.readMany keys source target filters] ↔
      path.readsByKey = true ∧ keyLiteral (.array keys)) ∧
    (∀ key, outcome.calls = [.readOne key source target filters] ↔
      path.readsByKey = true ∧ keyLiteral key ∧ key.isNull = false ∧ key.items? = none) ∧
    (outcome.calls = [] ↔ path.readsByKey = true ∧ keyLiteral .null) ∧
    (∀ cause, outcome.value = .error cause ↔
      (outcome.calls = [] ∧ cause = .nullKey) ∨
        ∃ call ∈ outcome.calls, store call = .error cause) ∧
    (path.readsByKey = true →
      ∃ value, keyValue registration.keyField plan.criteria.qualifierList = .ok value) := by
  intro plan source target path keyLiteral filters outcome
  have route := registration.route_execute parameters arguments store
  obtain ⟨call?, asks⟩ := route.exists_asks
  refine ⟨asks.length_le_one, ?_, route.calls_eq_scan_iff, route.calls_eq_readMany_iff,
    route.calls_eq_readOne_iff, route.calls_eq_nil_iff, asks.value_eq_error_iff,
    route.exists_keyValue⟩
  intro call called
  obtain ⟨fromSource, toTarget⟩ := route.types_of_mem called
  exact ⟨fromSource, toTarget, (asks.answer_of_mem called).2⟩

end KeyedQuery
