import KeyedQuery.Proofs.StoreCalls

/-!
How many records an invocation returns.

A plan may be limited, or paged. A scan has the plan and keeps to it, but a read by key asks for its
keys only, so the bound of the plan is kept on that path just when there are no more keys than
records wanted.
-/

set_option autoImplicit false

namespace KeyedQuery

/-! ### The bound of a plan -/

/-- The plan asks for that many records or more. A page with a negative size bounds nothing. -/
structure Plan.Admits (plan : Plan) (count : Nat) : Prop where
  limit : plan.isLimited = true → count ≤ plan.limit.toNat
  page : plan.isPaged = true → 0 ≤ plan.rows.toInt → Int.ofNat count ≤ plan.rows.toInt

namespace Plan

theorem admits_zero (plan : Plan) : plan.Admits 0 where
  limit _ := Nat.zero_le _
  page _ isSize := isSize

theorem Admits.mono {plan : Plan} {count fewer : Nat} (admits : plan.Admits count)
    (le : fewer ≤ count) : plan.Admits fewer where
  limit limited := Nat.le_trans le (admits.limit limited)
  page paged isSize := Int.le_trans (Int.ofNat_le.mpr le) (admits.page paged isSize)

end Plan

/-! ### Stores -/

/-- The record that a key has under the filters, if it has one. -/
abbrev Finder : Type :=
  RecordType → RecordType → List Qualifier → Json → Option Json

/-- A store that keeps to what it is asked: a read returns one record for each key that has one,
and a scan no more records than the plan asks for. Either may fail. -/
structure Store.Serves (store : Store) (find : Finder) : Prop where
  reads : ∀ source target filters argument records,
    store (.ofKeys source target filters argument) = .ok records →
      records = argument.keys.filterMap (find source target filters)
  scans : ∀ plan source target records,
    store (.scan plan source target) = .ok records → plan.Admits records.length

/-- A store in which every key is a record of its own. -/
def Store.ofKeys : Store
  | .readOne key _ _ _ => .ok [key]
  | .readMany keys _ _ _ => .ok keys
  | .scan _ _ _ => .ok []

theorem Store.ofKeys_read (source target : RecordType) (filters : List Qualifier)
    (argument : KeyArgument) :
    Store.ofKeys (.ofKeys source target filters argument) = .ok argument.keys := by
  cases argument <;> rfl

theorem Store.serves_ofKeys : Store.ofKeys.Serves fun _ _ _ key => some key where
  reads source target filters argument records answered := by
    rw [Store.ofKeys_read] at answered
    cases answered
    simp
  scans plan source target records answered := by
    cases answered
    exact plan.admits_zero

/-! ### The keys of a read -/

/-- The keys that the criteria fix, unless they are fixed to null. -/
def Criteria.fixedKeys (keyField : String) (criteria : Criteria) : List Json :=
  match keyValue keyField criteria.qualifierList with
  | .ok value => ((KeyArgument.ofValue? value).map KeyArgument.keys).getD []
  | .error _ => []

theorem KeySplit.fixedKeys_eq {keyField : String} {criteria : Criteria}
    {before after : List Qualifier} {condition : Condition} {value : Json}
    (split : KeySplit keyField criteria.qualifierList before condition value after) :
    criteria.fixedKeys keyField =
      ((KeyArgument.ofValue? value).map KeyArgument.keys).getD [] := by
  unfold Criteria.fixedKeys
  rw [split.keyValue_eq]

namespace Observed

variable {store : Store} {call? : Option Call}
  {outcome : Observed (Except QueryError (List Json))}

theorem Asks.store_eq_of_ok (asks : Asks store call? outcome) {records : List Json}
    (answered : outcome.value = .ok records) :
    ∃ call, call? = some call ∧ store call = .ok records := by
  rw [asks.answer] at answered
  cases call? with
  | none => cases answered
  | some call => exact ⟨call, rfl, answered⟩

end Observed

namespace Route

variable {keyField : String} {plan : Plan} {source target : RecordType} {store : Store}
  {outcome : Observed (Except QueryError (List Json))}

theorem admits_of_serves (route : Route keyField plan source target store outcome)
    {find : Finder} (serves : store.Serves find)
    (kept : plan.criteria.accessPath keyField = .scan ∨
      plan.Admits (plan.criteria.fixedKeys keyField).length)
    {records : List Json} (answered : outcome.value = .ok records) :
    plan.Admits records.length := by
  cases route with
  | scanned _ asks =>
      obtain ⟨call, isCall, fromStore⟩ := asks.store_eq_of_ok answered
      cases isCall
      exact serves.scans plan source target records fromStore
  | @read before after condition value split conjunction asks =>
      obtain ⟨call, isCall, fromStore⟩ := asks.store_eq_of_ok answered
      obtain ⟨argument, stands, isRead⟩ := Option.map_eq_some_iff.mp isCall
      subst isRead
      have found := serves.reads source target _ argument records fromStore
      have fewer : records.length ≤ argument.keys.length := by
        rw [found]
        exact List.length_filterMap_le _ _
      have keys : plan.criteria.fixedKeys keyField = argument.keys := by
        rw [split.fixedKeys_eq, stands]
        rfl
      rcases kept with isScan | admits
      · exact absurd isScan (split.accessPath_ne_scan conjunction)
      · exact (keys ▸ admits).mono fewer

/-- Where every key has a record, a read by key returns as many records as there are keys. -/
theorem fixedKeys_returned (route : Route keyField plan source target .ofKeys outcome)
    (reads : (plan.criteria.accessPath keyField).readsByKey = true) :
    plan.criteria.fixedKeys keyField = [] ∨
      outcome.value = .ok (plan.criteria.fixedKeys keyField) := by
  cases route with
  | scanned isScan _ =>
      rw [isScan] at reads
      cases reads
  | @read before after condition value split conjunction asks =>
      rw [split.fixedKeys_eq, asks.answer]
      cases KeyArgument.ofValue? value with
      | none => exact Or.inl rfl
      | some argument => exact Or.inr (Store.ofKeys_read source target _ argument)

end Route

/-- The bound of the plan is kept, whatever the store holds, exactly on a scan and on a read of no
more keys than the plan asks for records. -/
theorem result_bound_kept_iff (registration : Registration) (parameters : List Json)
    (arguments : Arguments) :
    let plan := (registration.prepare parameters arguments).value
    (∀ (store : Store) (find : Finder), store.Serves find → ∀ records,
      (registration.execute parameters arguments store).value = .ok records →
        plan.Admits records.length) ↔
      registration.accessPath plan = .scan ∨
        plan.Admits (plan.criteria.fixedKeys registration.keyField).length := by
  intro plan
  constructor
  · intro kept
    cases reads : (registration.accessPath plan).readsByKey with
    | false => exact Or.inl (AccessPath.eq_scan_of_not_readsByKey reads)
    | true =>
        refine Or.inr ?_
        rcases (registration.route_execute parameters arguments .ofKeys).fixedKeys_returned
          reads with none | returned
        · rw [none]
          exact plan.admits_zero
        · exact kept .ofKeys _ Store.serves_ofKeys _ returned
  · intro kept store find serves records answered
    exact (registration.route_execute parameters arguments store).admits_of_serves serves kept
      answered

/-- The first two of three keys are asked for, and all three come back. -/
theorem first_two_of_three_keys_exceeded :
    ¬ ∀ (registration : Registration) (parameters : List Json) (arguments : Arguments)
        (store : Store) (find : Finder), store.Serves find → ∀ records,
      (registration.execute parameters arguments store).value = .ok records →
        (registration.prepare parameters arguments).value.Admits records.length := by
  intro claim
  let keys : List Json := [.string "p1", .string "p2", .string "p3"]
  let registration :=
    Registration.ofIntent ((Intent.ofParts [⟨"id", .among⟩]).withMaxResults 2)
  have admits := claim registration [] (.ofValues [.array keys]) .ofKeys _ Store.serves_ofKeys keys
    rfl
  have tooMany := admits.limit (by decide)
  revert tooMany
  decide

end KeyedQuery
