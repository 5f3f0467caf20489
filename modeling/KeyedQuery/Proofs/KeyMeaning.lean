import KeyedQuery.Proofs.Satisfaction
import KeyedQuery.Proofs.StoreCalls

/-!
Reading by key selects the records that meet the criteria.

The kind of the value decides which keys are read, and the operator plays no part in it. The read
is the condition itself where the two fit: `among` with an array, `equal` with anything else.
-/

set_option autoImplicit false

namespace KeyedQuery

/-! ### Records -/

/-- A record: its key, and what every condition that does not compare the key says about it. -/
structure Record where
  key : Json
  reading : Reading

abbrev KeyComparison : Type :=
  Operator → Json → Json → Bool

/-- `among` asks for an item of an array, and no other value has items; `equal` asks for the value
itself. -/
def KeyComparison.byOperator : KeyComparison
  | .among, value, key => (value.items?.getD []).any fun item => key == item
  | _, value, key => key == value

/-- An array asks for one of its items, and any other value for itself. -/
def KeyComparison.byKind : KeyComparison
  | _, .array items, key => items.any fun item => key == item
  | _, value, key => key == value

/-- The operator is the one for values of this kind. -/
def Operator.Fits (operator : Operator) (value : Json) : Prop :=
  operator = .among ↔ value.items?.isSome = true

namespace Record

variable (record : Record) (comparison : KeyComparison) (keyField : String)

def meets (condition : Condition) : Bool :=
  match condition.value1 with
  | some (.literal value) =>
      if condition.field = some keyField ∧
          (condition.operator = .equal ∨ condition.operator = .among) then
        comparison condition.operator value record.key
      else record.reading.leaf condition
  | _ => record.reading.leaf condition

/-- The record as it is seen by a whole tree of qualifiers. -/
def seen : Reading :=
  { leaf := record.meets comparison keyField
    group := record.reading.group }

def selected (argument : KeyArgument) (filters : List Qualifier) : Bool :=
  (argument.keys.any fun key => record.key == key) &&
    filters.all (Qualifier.holds (record.seen comparison keyField))

def satisfies (criteria : Criteria) : Bool :=
  criteria.root.holds (record.seen comparison keyField)

end Record

/-! ### The condition on the key -/

theorem any_keys_ofValue? {value : Json} {argument : KeyArgument}
    (stands : KeyArgument.ofValue? value = some argument) (operator : Operator) (key : Json) :
    (argument.keys.any fun item => key == item) = KeyComparison.byKind operator value key := by
  cases value <;> cases stands <;> simp [KeyArgument.keys, KeyComparison.byKind]

theorem byOperator_eq_byKind {operator : Operator} {value : Json}
    (compares : operator = .equal ∨ operator = .among) (fits : operator.Fits value) (key : Json) :
    KeyComparison.byOperator operator value key = KeyComparison.byKind operator value key := by
  rcases compares with isEqual | isAmong
  · subst isEqual
    cases value with
    | array items => exact absurd (fits.mpr rfl) (by decide)
    | null => rfl
    | bool truth => rfl
    | number number => rfl
    | string text => rfl
    | object members => rfl
  · subst isAmong
    cases value with
    | array items => rfl
    | null => exact absurd (fits.mp rfl) (by decide)
    | bool truth => exact absurd (fits.mp rfl) (by simp [Json.items?])
    | number number => exact absurd (fits.mp rfl) (by simp [Json.items?])
    | string text => exact absurd (fits.mp rfl) (by simp [Json.items?])
    | object members => exact absurd (fits.mp rfl) (by simp [Json.items?])

/-! ### The whole criteria -/

theorem Criteria.holds_root_of_isConjunction {criteria : Criteria}
    (conjunction : criteria.isConjunction = true) (reading : Reading) :
    criteria.root.holds reading = criteria.qualifierList.all (Qualifier.holds reading) := by
  obtain ⟨root⟩ := criteria
  cases root with
  | leaf condition => simp [qualifierList]
  | group head nested =>
      have isAnd : head.operator = .and := by simpa [isConjunction] using conjunction
      exact Qualifier.holds_group_and reading isAnd nested

namespace KeySplit

variable {keyField : String} {criteria : Criteria} {before after : List Qualifier}
  {condition : Condition} {value : Json}

theorem meets_eq (split : KeySplit keyField criteria.qualifierList before condition value after)
    (record : Record) (comparison : KeyComparison) :
    record.meets comparison keyField condition =
      comparison condition.operator value record.key := by
  unfold Record.meets
  rw [split.bound]
  exact if_pos ⟨split.onKey, split.compares⟩

theorem satisfies_eq
    (split : KeySplit keyField criteria.qualifierList before condition value after)
    (conjunction : criteria.isConjunction = true) (record : Record) (comparison : KeyComparison) :
    record.satisfies comparison keyField criteria =
      (comparison condition.operator value record.key &&
        (before ++ after).all (Qualifier.holds (record.seen comparison keyField))) := by
  have onLeaf : (Qualifier.leaf condition).holds (record.seen comparison keyField) =
      comparison condition.operator value record.key := by
    rw [Qualifier.holds_leaf]
    exact split.meets_eq record comparison
  unfold Record.satisfies
  rw [Criteria.holds_root_of_isConjunction conjunction, split.listed, List.all_append,
    List.all_cons, List.all_append, onLeaf, Bool.and_left_comm]

/-- Any comparison that agrees with the kind of the value may be read into the criteria. -/
theorem selected_eq_satisfies
    (split : KeySplit keyField criteria.qualifierList before condition value after)
    (conjunction : criteria.isConjunction = true) {argument : KeyArgument}
    (stands : KeyArgument.ofValue? value = some argument) (record : Record)
    (comparison : KeyComparison)
    (agrees : comparison condition.operator value record.key =
      KeyComparison.byKind condition.operator value record.key) :
    record.selected comparison keyField argument (before ++ after) =
      record.satisfies comparison keyField criteria := by
  rw [split.satisfies_eq conjunction, agrees, ← any_keys_ofValue? stands condition.operator]
  rfl

end KeySplit

/-- A read by key returns the records that meet the criteria, where the condition on the key means
what the kind of its value says; if the operator fits that kind, it means what the operator says. -/
theorem key_read_selects_satisfying (registration : Registration) (parameters : List Json)
    (arguments : Arguments) (store : Store) (condition : Condition) (value : Json)
    (reads : (registration.accessPath
      (registration.prepare parameters arguments).value).readsByKey = true)
    (listed : Qualifier.leaf condition ∈
      (registration.prepare parameters arguments).value.criteria.qualifierList)
    (onKey : condition.field = some registration.keyField)
    (bound : condition.value1 = some (.literal value)) (present : value ≠ .null) :
    ∃ argument filters,
      (registration.execute parameters arguments store).calls =
        [.ofKeys registration.method.entity (registration.targetType arguments).value filters
          argument] ∧
      ∀ record : Record,
        record.selected .byKind registration.keyField argument filters =
          record.satisfies .byKind registration.keyField
            (registration.prepare parameters arguments).value.criteria ∧
        (condition.operator.Fits value →
          record.selected .byOperator registration.keyField argument filters =
            record.satisfies .byOperator registration.keyField
              (registration.prepare parameters arguments).value.criteria) := by
  cases registration.route_execute parameters arguments store with
  | scanned isScan asks =>
      have noRead : AccessPath.scan.readsByKey = true := isScan ▸ reads
      cases noRead
  | @read before after only literal split conjunction asks =>
      have same : condition = only := split.lone.eq_of_mem listed onKey
      subst same
      have sameValue : literal = value := by
        rw [split.bound] at bound
        exact Operand.literal.inj (Option.some.inj bound)
      subst sameValue
      cases stands : KeyArgument.ofValue? literal with
      | none => exact absurd ((KeyArgument.ofValue?_eq_none_iff literal).mp stands) present
      | some argument =>
          refine ⟨argument, before ++ after, ?_, ?_⟩
          · rw [asks.calls_eq_singleton_iff, stands]
            rfl
          · intro record
            constructor
            · exact split.selected_eq_satisfies conjunction stands record .byKind rfl
            · intro fits
              exact split.selected_eq_satisfies conjunction stands record .byOperator
                (byOperator_eq_byKind split.compares fits record.key)

/-- The keys of a batch and the filter beside them select what `among` and the other condition ask
for. -/
theorem batch_read_selects_satisfying :
    let keys : Json := .array [.string "p1", .string "p2"]
    let condition : Condition := ⟨some "id", .among, some (.literal keys), none⟩
    let criteria : Criteria := ⟨.allOf [.equal "name" (.string "Ann"), .leaf condition]⟩
    let registration := Registration.ofCriteria criteria
    (registration.accessPath (registration.prepare [] .empty).value).readsByKey = true ∧
      Operator.Fits .among keys ∧
      ∃ argument filters,
        (registration.execute [] .empty fun _ => .ok []).calls =
          [.ofKeys ⟨"Person"⟩ ⟨"Person"⟩ filters argument] ∧
        ∀ record : Record,
          record.selected .byOperator "id" argument filters =
            record.satisfies .byOperator "id" criteria := by
  intro keys condition criteria registration
  have reads : (registration.accessPath (registration.prepare [] .empty).value).readsByKey =
      true := by decide
  have fits : Operator.Fits .among keys := iff_of_true rfl rfl
  obtain ⟨argument, filters, called, agree⟩ :=
    key_read_selects_satisfying registration [] .empty (fun _ => .ok []) condition keys reads
      (List.mem_cons_of_mem _ List.mem_cons_self) rfl rfl (by simp [keys])
  exact ⟨reads, fits, argument, filters, called, fun record => (agree record).2 fits⟩

/-- Without the fit, `equal` to an array is read as if it were `among` its items. -/
theorem equal_to_array_not_read_as_one_key :
    ¬ ∀ (registration : Registration) (parameters : List Json) (arguments : Arguments)
        (store : Store) (condition : Condition) (value : Json),
      (registration.accessPath
        (registration.prepare parameters arguments).value).readsByKey = true →
      Qualifier.leaf condition ∈
        (registration.prepare parameters arguments).value.criteria.qualifierList →
      condition.field = some registration.keyField →
      condition.value1 = some (.literal value) → value ≠ .null →
      ∃ argument filters,
        (registration.execute parameters arguments store).calls =
          [.ofKeys registration.method.entity (registration.targetType arguments).value filters
            argument] ∧
        ∀ record : Record,
          record.selected .byOperator registration.keyField argument filters =
            record.satisfies .byOperator registration.keyField
              (registration.prepare parameters arguments).value.criteria := by
  intro claim
  let keys : Json := .array [.string "p1", .string "p2"]
  let condition : Condition := ⟨some "id", .equal, some (.literal keys), none⟩
  obtain ⟨argument, filters, called, agree⟩ :=
    claim (Registration.ofCriteria ⟨.leaf condition⟩) [] .empty (fun _ => .ok []) condition keys
      (by decide) List.mem_cons_self rfl rfl (by simp [keys])
  have differ := agree ⟨.string "p1", ⟨fun _ => false, fun _ _ => false⟩⟩
  cases argument with
  | single key => cases called
  | batch batch =>
      cases called
      revert differ
      decide

-- The fit fails the other way round too: `among` a value that is no array asks for nothing.
example :
    let record : Record := ⟨.string "p1", ⟨fun _ => false, fun _ _ => false⟩⟩
    let criteria : Criteria := ⟨.comparison "id" .among (.literal (.string "p1"))⟩
    record.selected .byOperator "id" (.single (.string "p1")) [] = true ∧
      record.satisfies .byOperator "id" criteria = false := by decide

end KeyedQuery
