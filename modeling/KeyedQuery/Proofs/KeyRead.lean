import KeyedQuery.Proofs.StoreCalls

/-!
What a read by key hands over.

The one condition on the key field says which keys are read, and the other conditions are handed
over with them. The kind of the value alone decides about the call, which is said here for the
calls as the store receives them. Without a key there is no call, and that is the only refusal.
-/

set_option autoImplicit false

namespace KeyedQuery

namespace Observed

/-- The outcome of a read by the key: an array is a batch of keys, null is refused without a call,
and every other value is one key. -/
inductive ReadsKey (store : Store) (source target : RecordType) (filters : List Qualifier)
    (outcome : Observed (Except QueryError (List Json))) : Json → Prop where
  | batch {keys : List Json}
      (called : outcome.calls = [.readMany keys source target filters])
      (answered : outcome.value = store (.readMany keys source target filters)) :
      ReadsKey store source target filters outcome (.array keys)
  | single {key : Json} (notNull : key.isNull = false) (notArray : key.items? = none)
      (called : outcome.calls = [.readOne key source target filters])
      (answered : outcome.value = store (.readOne key source target filters)) :
      ReadsKey store source target filters outcome key
  | refused (notCalled : outcome.calls = []) (cause : outcome.value = .error .nullKey) :
      ReadsKey store source target filters outcome .null

variable {store : Store} {source target : RecordType} {filters : List Qualifier}
  {outcome : Observed (Except QueryError (List Json))}

theorem Asks.readsKey {value : Json}
    (asks : outcome.Asks store
      ((KeyArgument.ofValue? value).map (Call.ofKeys source target filters))) :
    outcome.ReadsKey store source target filters value := by
  cases value with
  | null => exact .refused asks.calls asks.answer
  | array keys => exact .batch asks.calls asks.answer
  | bool truth => exact .single rfl rfl asks.calls asks.answer
  | number number => exact .single rfl rfl asks.calls asks.answer
  | string text => exact .single rfl rfl asks.calls asks.answer
  | object members => exact .single rfl rfl asks.calls asks.answer

theorem ReadsKey.of_null (reads : outcome.ReadsKey store source target filters .null) :
    outcome.calls = [] ∧ outcome.value = .error .nullKey := by
  cases reads with
  | single notNull => cases notNull
  | refused notCalled cause => exact ⟨notCalled, cause⟩

end Observed

namespace KeySplit

variable {registration : Registration} {before after : List Qualifier} {condition : Condition}
  {value : Json}

theorem readsKey_readByKey {plan : Plan}
    (split : KeySplit registration.keyField plan.criteria.qualifierList before condition value
      after)
    (conjunction : plan.criteria.isConjunction = true) (target : RecordType) (store : Store) :
    (registration.readByKey plan (registration.accessPath plan) target store).ReadsKey store
      registration.method.entity target (before ++ after) value :=
  (registration.asks_readByKey plan target store split conjunction).readsKey

theorem readsKey_execute {parameters : List Json} {arguments : Arguments}
    (split : KeySplit registration.keyField
      (registration.prepare parameters arguments).value.criteria.qualifierList before condition
      value after)
    (conjunction :
      (registration.prepare parameters arguments).value.criteria.isConjunction = true)
    (store : Store) :
    (registration.execute parameters arguments store).ReadsKey store registration.method.entity
      (registration.targetType arguments).value (before ++ after) value :=
  (registration.asks_execute_of_keySplit store parameters arguments split conjunction).readsKey

end KeySplit

/-- A read by key asks for the value of the one condition on the key field and hands all others to
the store, each of them once, unchanged and in order. -/
theorem key_read_splits_qualifiers (keyField : String) (criteria : Criteria)
    (reads : (criteria.accessPath keyField).readsByKey = true) :
    ∃ before condition value after,
      KeySplit keyField criteria.qualifierList before condition value after ∧
      keyValue keyField criteria.qualifierList = .ok value ∧
      criteria.remainingFilters keyField (criteria.accessPath keyField) = before ++ after ∧
      (before ++ after = [] ↔ criteria.accessPath keyField = .byKey) ∧
      (∀ (registration : Registration) (plan : Plan) (target : RecordType) (store : Store),
        registration.keyField = keyField → plan.criteria = criteria →
          (registration.readByKey plan (registration.accessPath plan) target store).ReadsKey store
            registration.method.entity target (before ++ after) value) ∧
      ∀ (registration : Registration) (parameters : List Json) (arguments : Arguments)
        (store : Store),
        registration.keyField = keyField →
        (registration.prepare parameters arguments).value.criteria = criteria →
          (registration.execute parameters arguments store).ReadsKey store
            registration.method.entity (registration.targetType arguments).value
            (before ++ after) value := by
  obtain ⟨conjunction, before, condition, value, after, split⟩ :=
    (criteria.readsByKey_accessPath_iff keyField).mp reads
  refine ⟨before, condition, value, after, split, split.keyValue_eq,
    split.remainingFilters_eq conjunction, ?_, ?_, ?_⟩
  · rw [split.accessPath_eq conjunction]
    by_cases alone : before ++ after = []
    · simp [alone]
    · simp [alone]
  · intro registration plan target store sameField sameCriteria
    subst sameField
    subst sameCriteria
    exact split.readsKey_readByKey conjunction target store
  · intro registration parameters arguments store sameField sameCriteria
    subst sameField
    subst sameCriteria
    exact split.readsKey_execute conjunction store

/-- A read of two keys. Its filters compare the key once more, inside a group, and they are handed
over with the keys. -/
theorem batch_read_splits_qualifiers :
    let name : Qualifier := .equal "name" (.string "Ann")
    let keys : List Json := [.string "p1", .string "p2"]
    let either : Qualifier := .anyOf [.equal "id" (.string "p3"), .greater "age" (.ofNat 3)]
    let criteria : Criteria := ⟨.allOf [name, .among "id" keys, either]⟩
    let registration := Registration.ofCriteria criteria
    let person : RecordType := ⟨"Person"⟩
    (criteria.accessPath "id").readsByKey = true ∧ registration.keyField = "id" ∧
      (registration.prepare [] .empty).value.criteria = criteria ∧
      ∃ before condition after,
        KeySplit "id" [name, .among "id" keys, either] before condition (.array keys) after ∧
        before ++ after = [name, either] ∧
        ∀ store : Store, (registration.execute [] .empty store).calls =
          [.readMany keys person person [name, either]] := by
  intro name keys either criteria registration person
  have reads : (criteria.accessPath "id").readsByKey = true := by decide
  obtain ⟨before, condition, value, after, split, found, filters, _, _, executed⟩ :=
    key_read_splits_qualifiers "id" criteria reads
  have isKeys : value = .array keys := (Except.ok.inj found).symm
  subst isKeys
  have handedOver : before ++ after = [name, either] := filters.symm
  refine ⟨reads, rfl, rfl, before, condition, after, split, handedOver, ?_⟩
  intro store
  have readsKeys := executed registration [] .empty store rfl rfl
  rw [handedOver] at readsKeys
  cases readsKeys with
  | batch called => exact called
  | single _ notArray => cases notArray

end KeyedQuery
