import KeyedQuery.Proofs.StoreCalls
import KeyedQuery.Request

/-!
What the counters of a method say about the requests that it has answered.

Each request counts one plan, one call of its kind for the call that it makes, and one failure for
an error that it returns. So the counters of a run are the numbers of these, and the executions are
those that called the store and those that had no key to call it with.
-/

set_option autoImplicit false

namespace KeyedQuery

/-- The counter of the calls of one kind. -/
def Call.counter : Call → Counter
  | .readOne _ _ _ _ => .singleReads
  | .readMany _ _ _ _ => .batchReads
  | .scan _ _ _ => .scans

theorem length_eq_count_calls (calls : List Call) :
    calls.length = (calls.map Call.counter).count .singleReads +
      (calls.map Call.counter).count .batchReads + (calls.map Call.counter).count .scans := by
  induction calls with
  | nil => rfl
  | cons call rest ih =>
      rw [List.length_cons, ih, List.map_cons, List.count_cons, List.count_cons, List.count_cons]
      cases call with
      | readOne key source target filters => simp [Call.counter]; omega
      | readMany keys source target filters => simp [Call.counter]; omega
      | scan plan source target => simp [Call.counter]; omega

theorem count_calls_eq_zero (calls : List Call) {counter : Counter}
    (ofNoCall : counter = .plansPrepared ∨ counter = .failures) :
    (calls.map Call.counter).count counter = 0 := by
  rw [List.count_eq_zero]
  intro member
  obtain ⟨call, _, same⟩ := List.mem_map.mp member
  rcases ofNoCall with isPlan | isFailure
  · subst isPlan
    cases call <;> cases same
  · subst isFailure
    cases call <;> cases same

/-- What an answer itself counts. -/
def Answer.counted (answer : Answer) : List Counter :=
  if answer.isFailure then [.failures] else []

theorem Answer.count_counted (answer : Answer) (counter : Counter) :
    answer.counted.count counter =
      if counter = .failures ∧ answer.isFailure = true then 1 else 0 := by
  unfold counted
  cases answer.isFailure with
  | false => simp
  | true => cases counter <;> simp

/-! ### One request -/

theorem counted_readKeys (store : Store) (source target : RecordType)
    (argument : Option KeyArgument) (filters : List Qualifier) :
    let read := do
      countKeyRead argument
      readKeys store source target argument filters
    read.counted = read.calls.map Call.counter := by
  cases argument with
  | none => rfl
  | some keys =>
      cases keys with
      | single key => rfl
      | batch keys => rfl

namespace Registration

variable (registration : Registration)

theorem counted_follow (plan : Plan) (path : AccessPath) (target : RecordType) (store : Store) :
    (registration.follow plan path target store).counted =
      (registration.follow plan path target store).calls.map Call.counter := by
  unfold follow
  split
  · unfold readByKey
    split
    · rfl
    · exact counted_readKeys store _ target _ _
  · rfl

theorem counted_reportFailure (result : Except QueryError (List Json)) :
    (registration.reportFailure result).counted = (Answer.records result).counted := by
  cases result with
  | ok records => rfl
  | error cause => rfl

theorem counted_execute (parameters : List Json) (arguments : Arguments) (store : Store) :
    let outcome := registration.execute parameters arguments store
    outcome.counted = .plansPrepared ::
      (outcome.calls.map Call.counter ++ (Answer.records outcome.value).counted) := by
  intro outcome
  let followed := registration.follow (registration.assemble parameters arguments)
    (registration.accessPath (registration.assemble parameters arguments))
    (registration.chosenType arguments) store
  have counted : outcome.counted = .plansPrepared ::
      (followed.counted ++ ((registration.reportFailure followed.value).counted ++ [])) := rfl
  have calls : outcome.calls =
      followed.calls ++ ((registration.reportFailure followed.value).calls ++ []) := rfl
  have value : outcome.value = followed.value := rfl
  rw [counted, calls, value, counted_follow, counted_reportFailure, calls_reportFailure,
    List.append_nil, List.append_nil, List.append_nil]

/-- What one request counts, in this order. -/
theorem counted_answer (request : Request) :
    let answered := registration.answer request
    answered.counted = .plansPrepared ::
      (answered.calls.map Call.counter ++ answered.value.counted) := by
  cases request with
  | prepare parameters arguments => rfl
  | explain parameters arguments => rfl
  | execute parameters arguments store =>
      intro answered
      have counted : answered.counted =
          (registration.execute parameters arguments store).counted ++ [] := rfl
      have calls : answered.calls =
          (registration.execute parameters arguments store).calls ++ [] := rfl
      rw [counted, calls, List.append_nil, List.append_nil, counted_execute]
      rfl

def rejectsNullKey (registration : Registration) : Request → Bool
  | .execute parameters arguments store =>
      (registration.execute parameters arguments store).rejectsNullKey
  | _ => false

theorem calls_answer (request : Request) :
    (registration.answer request).calls.length +
        (if registration.rejectsNullKey request then 1 else 0) =
      if request.isExecution then 1 else 0 := by
  cases request with
  | prepare parameters arguments => rfl
  | explain parameters arguments => rfl
  | execute parameters arguments store =>
      obtain ⟨call?, asks⟩ := (registration.route_execute parameters arguments store).exists_asks
      have calls : (registration.answer (.execute parameters arguments store)).calls =
          (registration.execute parameters arguments store).calls ++ [] := rfl
      have rejects : registration.rejectsNullKey (.execute parameters arguments store) = true ↔
          call? = none := asks.rejectsNullKey_iff
      rw [calls, List.append_nil, asks.calls]
      cases call? with
      | none => rw [if_pos (rejects.mpr rfl)]; rfl
      | some call => rw [if_neg (fun rejected => nomatch rejects.mp rejected)]; rfl

/-! ### A run -/

/-- How often a run increments each counter. -/
theorem count_answerAll (requests : List Request) (counter : Counter) :
    let run := registration.answerAll requests
    run.counted.count counter =
      (if counter = .plansPrepared then requests.length else 0) +
        (run.calls.map Call.counter).count counter +
        (if counter = .failures then run.value.countP Answer.isFailure else 0) := by
  induction requests with
  | nil => simp [answerAll]
  | cons request rest ih =>
      intro run
      have counted : run.counted = (registration.answer request).counted ++
          ((registration.answerAll rest).counted ++ []) := rfl
      have calls : run.calls = (registration.answer request).calls ++
          ((registration.answerAll rest).calls ++ []) := rfl
      have answers : run.value = (registration.answer request).value ::
          (registration.answerAll rest).value := rfl
      have one := registration.counted_answer request
      rw [List.append_nil] at counted calls
      rw [counted, calls, answers, one, List.count_append, ih, List.count_cons, List.count_append,
        Answer.count_counted, List.map_append, List.count_append, List.length_cons,
        List.countP_cons]
      cases counter with
      | plansPrepared => simp; omega
      | singleReads => simp
      | batchReads => simp
      | scans => simp
      | failures => simp; omega

theorem calls_answerAll (requests : List Request) :
    (registration.answerAll requests).calls.length + requests.countP registration.rejectsNullKey =
      requests.countP Request.isExecution := by
  induction requests with
  | nil => rfl
  | cons request rest ih =>
      have calls : (registration.answerAll (request :: rest)).calls =
          (registration.answer request).calls ++ ((registration.answerAll rest).calls ++ []) := rfl
      have one := registration.calls_answer request
      rw [calls, List.append_nil, List.length_append, List.countP_cons, List.countP_cons]
      omega

theorem length_answerAll (requests : List Request) :
    (registration.answerAll requests).value.length = requests.length := by
  induction requests with
  | nil => rfl
  | cons request rest ih => exact congrArg (· + 1) ih

theorem count_plansPrepared_answerAll (requests : List Request) :
    (registration.answerAll requests).counted.count .plansPrepared = requests.length := by
  rw [count_answerAll, count_calls_eq_zero _ (Or.inl rfl)]
  simp

theorem count_failures_answerAll (requests : List Request) :
    (registration.answerAll requests).counted.count .failures =
      (registration.answerAll requests).value.countP Answer.isFailure := by
  rw [count_answerAll, count_calls_eq_zero _ (Or.inr rfl)]
  simp

theorem count_calls_answerAll (requests : List Request) {counter : Counter}
    (notPlan : counter ≠ .plansPrepared) (notFailure : counter ≠ .failures) :
    (registration.answerAll requests).counted.count counter =
      ((registration.answerAll requests).calls.map Call.counter).count counter := by
  rw [count_answerAll, if_neg notPlan, if_neg notFailure, Nat.zero_add, Nat.add_zero]

/-- No counter is incremented more often than there are requests. -/
theorem count_answerAll_le (requests : List Request) (counter : Counter) :
    (registration.answerAll requests).counted.count counter ≤ requests.length := by
  have executions := registration.calls_answerAll requests
  have fewer : requests.countP Request.isExecution ≤ requests.length := List.countP_le_length
  have kinds := length_eq_count_calls (registration.answerAll requests).calls
  cases counter with
  | plansPrepared => exact Nat.le_of_eq (registration.count_plansPrepared_answerAll requests)
  | singleReads =>
      rw [registration.count_calls_answerAll requests (by decide) (by decide)]
      omega
  | batchReads =>
      rw [registration.count_calls_answerAll requests (by decide) (by decide)]
      omega
  | scans =>
      rw [registration.count_calls_answerAll requests (by decide) (by decide)]
      omega
  | failures =>
      rw [registration.count_failures_answerAll, ← registration.length_answerAll]
      exact List.countP_le_length

theorem toNat_value_countersAfter {requests : List Request}
    (short : requests.length < UInt64.size) (counter : Counter) :
    ((registration.countersAfter requests).value counter).toNat =
      (registration.answerAll requests).counted.count counter := by
  apply Counters.toNat_value_afterAll
  exact Nat.lt_of_le_of_lt (registration.count_answerAll_le requests counter) short

end Registration

/-- The counters of a run are the numbers of its requests, of its calls of each kind and of its
failures. Every execution is counted as a call, or else had no key to call with. -/
theorem counters_account_for_requests (registration : Registration) (requests : List Request)
    (short : requests.length < UInt64.size) :
    let run := registration.answerAll requests
    let counters := registration.countersAfter requests
    let made := run.calls.map Call.counter
    counters.plansPrepared.toNat = requests.length ∧
    counters.singleReads.toNat = made.count .singleReads ∧
    counters.batchReads.toNat = made.count .batchReads ∧
    counters.scans.toNat = made.count .scans ∧
    counters.failures.toNat = run.value.countP Answer.isFailure ∧
    requests.countP Request.isExecution =
      counters.keyReads.toNat + counters.scans.toNat +
        requests.countP registration.rejectsNullKey := by
  intro run counters made
  have held := registration.toNat_value_countersAfter short
  have prepared : counters.plansPrepared.toNat = requests.length :=
    (held .plansPrepared).trans (registration.count_plansPrepared_answerAll requests)
  have ofCalls {counter : Counter} (notPlan : counter ≠ .plansPrepared)
      (notFailure : counter ≠ .failures) :
      (counters.value counter).toNat = made.count counter :=
    (held counter).trans (registration.count_calls_answerAll requests notPlan notFailure)
  have single : counters.singleReads.toNat = made.count .singleReads :=
    @ofCalls .singleReads (by decide) (by decide)
  have batch : counters.batchReads.toNat = made.count .batchReads :=
    @ofCalls .batchReads (by decide) (by decide)
  have scans : counters.scans.toNat = made.count .scans :=
    @ofCalls .scans (by decide) (by decide)
  have failures : counters.failures.toNat = run.value.countP Answer.isFailure :=
    (held .failures).trans (registration.count_failures_answerAll requests)
  refine ⟨prepared, single, batch, scans, failures, ?_⟩
  have executions : run.calls.length + requests.countP registration.rejectsNullKey =
      requests.countP Request.isExecution := registration.calls_answerAll requests
  have fewer : requests.countP Request.isExecution ≤ requests.length := List.countP_le_length
  have kinds : run.calls.length =
      made.count .singleReads + made.count .batchReads + made.count .scans :=
    length_eq_count_calls run.calls
  have reads : counters.keyReads.toNat = made.count .singleReads + made.count .batchReads := by
    rw [Counters.keyReads, UInt64.toNat_add, single, batch]
    apply Nat.mod_eq_of_lt
    change _ < UInt64.size
    omega
  rw [reads, scans]
  omega

/-- A read of one key, a read of two that fails, a scan for a deferred key, and no key at all,
behind a plan and an explanation. -/
theorem six_requests_accounted :
    let registration := Registration.ofIntent (.ofParts [⟨"id", .equal⟩])
    let answers : Store := fun _ => .ok []
    let fails : Store := fun _ => .error (.execution "down")
    let deferred := Json.object [(Operand.expressionKey, .string "#id")]
    let requests : List Request :=
      [.prepare [] .empty, .explain [] .empty,
        .execute [] (.ofValues [.string "p1"]) answers,
        .execute [] (.ofValues [.array [.string "p1", .string "p2"]]) fails,
        .execute [] (.ofValues [deferred]) answers, .execute [] (.ofValues [.null]) answers]
    let counters := registration.countersAfter requests
    requests.length < UInt64.size ∧ counters.plansPrepared.toNat = 6 ∧
      counters.singleReads.toNat = 1 ∧ counters.batchReads.toNat = 1 ∧
      counters.scans.toNat = 1 ∧ counters.failures.toNat = 2 ∧
      4 = counters.keyReads.toNat + counters.scans.toNat + 1 := by
  intro registration answers fails deferred requests counters
  have short : requests.length < UInt64.size := by decide
  obtain ⟨prepared, single, batch, scans, failures, executions⟩ :=
    counters_account_for_requests registration requests short
  have oneSingle : counters.singleReads.toNat = 1 := by
    rw [single]
    decide
  have oneBatch : counters.batchReads.toNat = 1 := by
    rw [batch]
    decide
  have oneScan : counters.scans.toNat = 1 := by
    rw [scans]
    decide
  have twoFailures : counters.failures.toNat = 2 := by
    rw [failures]
    decide
  have executed : requests.countP Request.isExecution = 4 := by decide
  have rejected : requests.countP registration.rejectsNullKey = 1 := by decide
  rw [executed, rejected] at executions
  exact ⟨short, prepared, oneSingle, oneBatch, oneScan, twoFailures, executions⟩

end KeyedQuery
