import KeyedQuery.Proofs.Deferral

/-!
Explanations and the executions that they announce.

An explanation is made without a store, and an execution without the explanation. Even so the path
in the explanation says which call the execution makes, what it hands over with it, and, where the
key is null and there is no call, how many conditions were given.
-/

set_option autoImplicit false

namespace KeyedQuery

/-! ### Paths and what they leave to the store -/

theorem AccessPath.name_eq_iff (path other : AccessPath) :
    path.name = other.name ↔ path = other := by
  cases path <;> cases other <;> simp [name]

namespace KeySplit

variable {keyField : String} {criteria : Criteria} {before after : List Qualifier}
  {condition : Condition} {value : Json}

theorem accessPath_eq_byKey_iff
    (split : KeySplit keyField criteria.qualifierList before condition value after)
    (conjunction : criteria.isConjunction = true) :
    criteria.accessPath keyField = .byKey ↔ before ++ after = [] := by
  rw [split.accessPath_eq conjunction]
  by_cases alone : before ++ after = []
  · simp [alone]
  · simp [alone]

theorem accessPath_eq_byKeyFiltered_iff
    (split : KeySplit keyField criteria.qualifierList before condition value after)
    (conjunction : criteria.isConjunction = true) :
    criteria.accessPath keyField = .byKeyFiltered ↔ before ++ after ≠ [] := by
  rw [split.accessPath_eq conjunction]
  by_cases alone : before ++ after = []
  · simp [alone]
  · simp [alone]

end KeySplit

/-! ### Outcomes of scans and of reads -/

namespace Observed

variable {store : Store} {source target : RecordType}
  {outcome : Observed (Except QueryError (List Json))}

/-- The store is asked to read by key, with filters as wanted. -/
def ReadsWith (outcome : Observed (Except QueryError (List Json)))
    (wanted : List Qualifier → Prop) : Prop :=
  ∃ call ∈ outcome.calls, ∃ filters, call.filters? = some filters ∧ wanted filters

/-- The criteria fix the key to null, and the outcome is the refusal to read without a key. A key
that is not null is never refused in this sense. -/
def RefusesNull (keyField : String) (criteria : Criteria)
    (outcome : Observed (Except QueryError (List Json))) : Prop :=
  outcome.rejectsNullKey = true ∧ criteria.KeyLiteral keyField .null

theorem not_readsWith_of_calls_eq_nil (notCalled : outcome.calls = [])
    (wanted : List Qualifier → Prop) : ¬ outcome.ReadsWith wanted := by
  intro reads
  obtain ⟨call, called, _⟩ := reads
  rw [notCalled] at called
  cases called

theorem ReadsKey.readsWith_iff {filters : List Qualifier} {key : Json}
    (reads : outcome.ReadsKey store source target filters key) (wanted : List Qualifier → Prop) :
    outcome.ReadsWith wanted ↔ key ≠ .null ∧ wanted filters := by
  cases reads with
  | batch called =>
      unfold ReadsWith
      rw [called]
      simp [Call.filters?]
  | single notNull _ called =>
      have isKey : key ≠ .null := by
        intro isNull
        rw [isNull] at notNull
        cases notNull
      unfold ReadsWith
      rw [called]
      simp [Call.filters?, isKey]
  | refused notCalled =>
      exact iff_of_false (not_readsWith_of_calls_eq_nil notCalled wanted) fun both => both.1 rfl

theorem ReadsKey.rejectsNullKey_of_null {filters : List Qualifier}
    (reads : outcome.ReadsKey store source target filters .null) :
    outcome.rejectsNullKey = true := by
  obtain ⟨notCalled, cause⟩ := reads.of_null
  unfold rejectsNullKey
  rw [notCalled, cause]
  rfl

theorem ReadsKey.refusesNull_iff {keyField : String} {criteria : Criteria}
    {before after : List Qualifier} {condition : Condition} {key : Json}
    (reads : outcome.ReadsKey store source target (before ++ after) key)
    (split : KeySplit keyField criteria.qualifierList before condition key after) :
    outcome.RefusesNull keyField criteria ↔ key = .null := by
  constructor
  · intro refuses
    exact ((split.keyLiteral_iff .null).mp refuses.2).symm
  · intro isNull
    subst isNull
    exact ⟨reads.rejectsNullKey_of_null, (split.keyLiteral_iff .null).mpr rfl⟩

/-- Whether a read by key is made or refused, what counts of its filters is the same. -/
theorem ReadsKey.readsWith_or_refusesNull_iff {keyField : String} {criteria : Criteria}
    {before after : List Qualifier} {condition : Condition} {key : Json}
    (reads : outcome.ReadsKey store source target (before ++ after) key)
    (split : KeySplit keyField criteria.qualifierList before condition key after)
    {wanted : List Qualifier → Prop} {otherwise : Prop}
    (agree : otherwise ↔ wanted (before ++ after)) :
    outcome.ReadsWith wanted ∨ (outcome.RefusesNull keyField criteria ∧ otherwise) ↔
      wanted (before ++ after) := by
  rw [reads.readsWith_iff, reads.refusesNull_iff split, agree, ← or_and_right]
  exact and_iff_right (Classical.em (key = .null)).symm

theorem Asks.not_readsWith_or_refusesNull {plan : Plan}
    (asks : outcome.Asks store (some (.scan plan source target))) (keyField : String)
    (criteria : Criteria) (wanted : List Qualifier → Prop) (otherwise : Prop) :
    ¬ (outcome.ReadsWith wanted ∨ (outcome.RefusesNull keyField criteria ∧ otherwise)) := by
  intro either
  rcases either with reads | refuses
  · obtain ⟨call, called, filters, handed, _⟩ := reads
    obtain ⟨isScan, _⟩ := asks.answer_of_mem called
    cases isScan
    cases handed
  · have notAsked := asks.rejectsNullKey_iff.mp refuses.1.1
    cases notAsked

end Observed

namespace Route

variable {keyField : String} {plan : Plan} {source target : RecordType} {store : Store}
  {outcome : Observed (Except QueryError (List Json))}

theorem scan_iff (route : Route keyField plan source target store outcome) :
    plan.criteria.accessPath keyField = .scan ↔
      ∃ scanned first second, Call.scan scanned first second ∈ outcome.calls := by
  cases route with
  | scanned isScan asks =>
      apply iff_of_true isScan
      refine ⟨plan, source, target, ?_⟩
      rw [asks.calls]
      exact List.mem_cons_self
  | read split conjunction asks =>
      apply iff_of_false (split.accessPath_ne_scan conjunction)
      intro someScan
      obtain ⟨scanned, first, second, called⟩ := someScan
      obtain ⟨isCall, _⟩ := asks.answer_of_mem called
      obtain ⟨keys, _, isRead⟩ := Option.map_eq_some_iff.mp isCall
      cases keys with
      | single key => cases isRead
      | batch keys => cases isRead

theorem byKey_iff (route : Route keyField plan source target store outcome) :
    plan.criteria.accessPath keyField = .byKey ↔
      outcome.ReadsWith (· = []) ∨
        (outcome.RefusesNull keyField plan.criteria ∧
          plan.criteria.qualifierList.length = 1) := by
  cases route with
  | scanned isScan asks =>
      rw [isScan]
      exact iff_of_false (by decide) (asks.not_readsWith_or_refusesNull keyField _ _ _)
  | read split conjunction asks =>
      rw [split.accessPath_eq_byKey_iff conjunction]
      apply Iff.symm
      apply asks.readsKey.readsWith_or_refusesNull_iff split
      rw [split.lone.length_eq, ← List.length_eq_zero_iff]
      omega

theorem byKeyFiltered_iff (route : Route keyField plan source target store outcome) :
    plan.criteria.accessPath keyField = .byKeyFiltered ↔
      outcome.ReadsWith (· ≠ []) ∨
        (outcome.RefusesNull keyField plan.criteria ∧
          1 < plan.criteria.qualifierList.length) := by
  cases route with
  | scanned isScan asks =>
      rw [isScan]
      exact iff_of_false (by decide) (asks.not_readsWith_or_refusesNull keyField _ _ _)
  | read split conjunction asks =>
      rw [split.accessPath_eq_byKeyFiltered_iff conjunction]
      apply Iff.symm
      apply asks.readsKey.readsWith_or_refusesNull_iff split
      rw [split.lone.length_eq, ← List.length_pos_iff]
      omega

end Route

/-- The explained path is the path that execution takes. A null key, and no other, is refused
without a call, and then the number of conditions tells the two kinds of reads apart. -/
theorem explained_path_is_taken (registration : Registration) (parameters : List Json)
    (arguments : Arguments) (store : Store) :
    let explanation := (registration.explain parameters arguments).value
    let outcome := registration.execute parameters arguments store
    let criteria := (registration.prepare parameters arguments).value.criteria
    let refuses := outcome.RefusesNull registration.keyField criteria
    let conditions := criteria.qualifierList.length
    (explanation.accessPath = "PREDICATE_SCAN" ↔
      ∃ plan source target, Call.scan plan source target ∈ outcome.calls) ∧
    (explanation.accessPath = "ID_LOOKUP" ↔
      outcome.ReadsWith (· = []) ∨ (refuses ∧ conditions = 1)) ∧
    (explanation.accessPath = "ID_LOOKUP_FILTERED" ↔
      outcome.ReadsWith (· ≠ []) ∨ (refuses ∧ 1 < conditions)) ∧
    ∀ call ∈ outcome.calls, call.target.name = explanation.targetType := by
  intro explanation outcome criteria refuses conditions
  have route := registration.route_execute parameters arguments store
  have named (path : AccessPath) : explanation.accessPath = path.name ↔
      registration.accessPath (registration.prepare parameters arguments).value = path :=
    AccessPath.name_eq_iff _ path
  refine ⟨(named .scan).trans route.scan_iff, (named .byKey).trans route.byKey_iff,
    (named .byKeyFiltered).trans route.byKeyFiltered_iff, ?_⟩
  intro call called
  obtain ⟨_, toTarget⟩ := route.types_of_mem called
  rw [toTarget]
  rfl

/-- A read of two keys with a filter is explained as such and made, and a read of null is explained
alike and refused. -/
theorem explained_batch_is_read :
    let registration := Registration.ofIntent (.ofParts [⟨"name", .equal⟩, ⟨"id", .among⟩])
    let keys : List Json := [.string "p1", .string "p2"]
    let batch := Arguments.ofValues [.string "Ann", .array keys]
    let missing := Arguments.ofValues [.string "Ann"]
    let person : RecordType := ⟨"Person"⟩
    let store : Store := fun _ => .ok []
    (registration.explain [] batch).value.accessPath = "ID_LOOKUP_FILTERED" ∧
      (registration.execute [] batch store).calls =
        [.readMany keys person person [.equal "name" (.string "Ann")]] ∧
      (registration.execute [] batch store).ReadsWith (· ≠ []) ∧
      (registration.explain [] missing).value.accessPath = "ID_LOOKUP_FILTERED" ∧
      (registration.execute [] missing store).RefusesNull "id"
        (registration.prepare [] missing).value.criteria := by
  intro registration keys batch missing person store
  have explainedBatch : (registration.explain [] batch).value.accessPath =
      "ID_LOOKUP_FILTERED" := by decide
  have explainedMissing : (registration.explain [] missing).value.accessPath =
      "ID_LOOKUP_FILTERED" := by decide
  have calls : (registration.execute [] batch store).calls =
      [.readMany keys person person [.equal "name" (.string "Ann")]] := rfl
  have notCalled : (registration.execute [] missing store).calls = [] := rfl
  obtain ⟨_, _, filtered, _⟩ := explained_path_is_taken registration [] batch store
  obtain ⟨_, _, filteredMissing, _⟩ := explained_path_is_taken registration [] missing store
  refine ⟨explainedBatch, calls, ?_, explainedMissing, ?_⟩
  · rcases filtered.mp explainedBatch with reads | refuses
    · exact reads
    · have rejects := refuses.1.1
      unfold Observed.rejectsNullKey at rejects
      rw [calls] at rejects
      cases rejects
  · rcases filteredMissing.mp explainedMissing with reads | refuses
    · exact absurd reads (Observed.not_readsWith_of_calls_eq_nil notCalled _)
    · exact refuses.1

end KeyedQuery
