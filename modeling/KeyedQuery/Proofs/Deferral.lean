import KeyedQuery.Proofs.ArgumentBlocks
import KeyedQuery.Proofs.Leaves
import KeyedQuery.Proofs.NamedKey

/-!
Deferred operands, and who gets the variables to resolve them.

The root of the criteria decides whether a plan has variables: it has them for a single leaf whose
first operand is deferred. A read by key has no plan, and its filters are handed over as they are,
so they are deferred wherever a condition beside the key is.
-/

set_option autoImplicit false

namespace KeyedQuery

/-! ### Deferred conditions -/

def Condition.defers (condition : Condition) : Bool :=
  isDeferredOperand condition.value1 || isDeferredOperand condition.value2

namespace Qualifier

def hasDeferredLeaf (qualifier : Qualifier) : Bool :=
  qualifier.leaves.any Condition.defers

/-- Whether any operand in the tree is deferred, the unused ones of groups included. -/
def mentionsDeferred (qualifier : Qualifier) : Bool :=
  qualifier.conditions.any Condition.defers

end Qualifier

namespace Criteria

/-- The criteria are a single leaf whose first operand is deferred. -/
def IsDeferredLeaf (criteria : Criteria) : Prop :=
  ∃ condition, criteria.root = .leaf condition ∧ isDeferredOperand condition.value1 = true

/-- Whether the root is a group that has a deferred operand of its own. -/
def rootGroupDefers (criteria : Criteria) : Bool :=
  criteria.isCombined && isDeferredOperand criteria.root.value1

theorem requiresEvaluation_iff {criteria : Criteria} (bare : criteria.rootGroupDefers = false) :
    criteria.requiresEvaluation = true ↔ criteria.IsDeferredLeaf := by
  obtain ⟨root⟩ := criteria
  cases root with
  | leaf condition =>
      constructor
      · intro deferred
        exact ⟨condition, rfl, deferred⟩
      · rintro ⟨only, isRoot, deferred⟩
        cases isRoot
        exact deferred
  | group head nested =>
      constructor
      · intro deferred
        have ownOperand : isDeferredOperand head.value1 = false := bare
        exact absurd deferred (Bool.eq_false_iff.mp ownOperand)
      · rintro ⟨_, isRoot, _⟩
        cases isRoot

theorem IsDeferredLeaf.hasDeferredLeaf {criteria : Criteria} (single : criteria.IsDeferredLeaf) :
    criteria.root.hasDeferredLeaf = true := by
  obtain ⟨condition, isRoot, deferred⟩ := single
  rw [isRoot]
  simp [Qualifier.hasDeferredLeaf, Condition.defers, deferred]

end Criteria

/-! ### The variables of a plan -/

theorem Registration.isSome_context_prepare (registration : Registration)
    (parameters : List Json) (arguments : Arguments) :
    (registration.prepare parameters arguments).value.context.isSome =
      (registration.prepare parameters arguments).value.criteria.requiresEvaluation := by
  rw [registration.value_prepare parameters arguments]
  dsimp only
  split
  · rename_i required
    exact required.symm
  · rename_i notRequired
    exact (Bool.eq_false_iff.mpr notRequired).symm

/-- A plan has variables exactly when its criteria are a single leaf whose first operand is
deferred. Deferred operands elsewhere in the tree bring none, but there are never variables without
a deferred leaf. What a group at the root makes of an operand of its own is left open. -/
theorem context_iff_deferred_root_leaf (registration : Registration) (parameters : List Json)
    (arguments : Arguments)
    (bare : (registration.prepare parameters arguments).value.criteria.rootGroupDefers = false) :
    let plan := (registration.prepare parameters arguments).value
    let explanation := (registration.explain parameters arguments).value
    let deferredLeaf := plan.criteria.root.hasDeferredLeaf = true
    (plan.context.isSome = true ↔ plan.criteria.IsDeferredLeaf) ∧
    (explanation.deferred = true ↔ plan.criteria.IsDeferredLeaf) ∧
    (plan.context.isSome = true → deferredLeaf) ∧
    ((plan.context.isSome = true ↔ deferredLeaf) ↔
      plan.criteria.IsDeferredLeaf ∨ ¬ deferredLeaf) := by
  intro plan explanation deferredLeaf
  have bound : plan.context.isSome = true ↔ plan.criteria.IsDeferredLeaf := by
    rw [registration.isSome_context_prepare parameters arguments]
    exact Criteria.requiresEvaluation_iff bare
  have explained : explanation.deferred = plan.context.isSome := rfl
  have someLeaf : plan.criteria.IsDeferredLeaf → deferredLeaf :=
    Criteria.IsDeferredLeaf.hasDeferredLeaf
  refine ⟨bound, explained ▸ bound, fun present => someLeaf (bound.mp present), ?_⟩
  rw [bound]
  constructor
  · intro agree
    by_cases single : plan.criteria.IsDeferredLeaf
    · exact Or.inl single
    · exact Or.inr fun leaf => single (agree.mpr leaf)
  · rintro (single | noLeaf)
    · exact iff_of_true single (someLeaf single)
    · exact iff_of_false (fun single => noLeaf (someLeaf single)) noLeaf

/-- The first bound of a range is deferred, so the plan has variables. -/
theorem deferred_range_has_context :
    let range : Condition :=
      ⟨some "age", .between, some (.expression "#low"), some (.literal (.ofNat 30))⟩
    let registration := Registration.ofCriteria ⟨.leaf range⟩
    (registration.prepare [] .empty).value.criteria.rootGroupDefers = false ∧
      (registration.prepare [] .empty).value.context.isSome = true := by
  intro range registration
  have bare : (registration.prepare [] .empty).value.criteria.rootGroupDefers = false := rfl
  refine ⟨bare, ?_⟩
  exact (context_iff_deferred_root_leaf registration [] .empty bare).1.mpr ⟨range, rfl, rfl⟩

/-- A deferred condition beside another one gets no variables. -/
theorem deferred_member_has_no_context :
    ¬ ∀ (registration : Registration) (parameters : List Json) (arguments : Arguments),
      let plan := (registration.prepare parameters arguments).value
      let explanation := (registration.explain parameters arguments).value
      (plan.context.isSome = true ↔ plan.criteria.root.hasDeferredLeaf = true) ∧
        (explanation.deferred = true ↔ plan.criteria.root.hasDeferredLeaf = true) := by
  intro claim
  let registration := Registration.ofIntent (.ofParts [⟨"name", .equal⟩, ⟨"owner", .equal⟩])
  let arguments := Arguments.ofValues
    [.string "Ann", .object [(Operand.expressionKey, .string "#owner")]]
  have deferred : (registration.prepare [] arguments).value.criteria.root.hasDeferredLeaf =
      true := by decide
  have present := (claim registration [] arguments).1.mpr deferred
  cases present

/-! ### Filters of reads by key -/

/-- The conditions that a read by key leaves to the store. A scan has a plan instead. -/
def Call.filters? : Call → Option (List Qualifier)
  | .readOne _ _ _ filters => some filters
  | .readMany _ _ _ filters => some filters
  | .scan _ _ _ => none

theorem Call.filters?_ofKeys (source target : RecordType) (filters : List Qualifier)
    (argument : KeyArgument) :
    (Call.ofKeys source target filters argument).filters? = some filters := by
  cases argument <;> rfl

/-- What a call of a read by key hands over, and how it came about. -/
theorem Route.keySplit_of_mem {keyField : String} {plan : Plan} {source target : RecordType}
    {store : Store} {outcome : Observed (Except QueryError (List Json))}
    (route : Route keyField plan source target store outcome) {call : Call}
    {filters : List Qualifier} (called : call ∈ outcome.calls)
    (handed : call.filters? = some filters) :
    plan.criteria.isConjunction = true ∧ ∃ before condition value after,
      KeySplit keyField plan.criteria.qualifierList before condition value after ∧
        filters = before ++ after := by
  cases route with
  | scanned _ asks =>
      obtain ⟨isCall, _⟩ := asks.answer_of_mem called
      cases isCall
      cases handed
  | @read before after condition value split conjunction asks =>
      obtain ⟨isCall, _⟩ := asks.answer_of_mem called
      obtain ⟨argument, _, isRead⟩ := Option.map_eq_some_iff.mp isCall
      rw [← isRead, Call.filters?_ofKeys] at handed
      exact ⟨conjunction, before, condition, value, after, split, (Option.some.inj handed).symm⟩

/-! ### Expressions among the arguments -/

theorem Condition.defers_eq_any (condition : Condition) :
    condition.defers = condition.operands.any Operand.isDeferred := by
  unfold Condition.defers Condition.operands
  rw [List.any_append]
  cases condition.value1 <;> cases condition.value2 <;> simp [isDeferredOperand]

theorem Part.defers_conditionOver_iff (part : Part) (arguments : List Json) (start : Nat) :
    (part.conditionOver (argumentBlock arguments start part.arity)).defers = true ↔
      ∃ argument ∈ argumentBlock arguments start part.arity,
        (Operand.ofArgument argument).isDeferred = true := by
  rw [Condition.defers_eq_any, part.operands_conditionOver, List.any_map, List.any_eq_true]
  rfl

theorem Part.mentionsDeferred_bind_iff (part : Part) (arguments : List Json) (start : Nat) :
    (part.bind (arguments.drop start)).mentionsDeferred = true ↔
      ∃ source, .object [(Operand.expressionKey, .string source)] ∈
        argumentBlock arguments start part.arity := by
  rw [Part.bind_drop, Qualifier.mentionsDeferred, Qualifier.conditions_leaf, List.any_cons,
    List.any_nil, Bool.or_false, part.defers_conditionOver_iff]
  constructor
  · rintro ⟨argument, member, deferred⟩
    obtain ⟨source, isExpression⟩ := (Operand.isDeferred_ofArgument_iff argument).mp deferred
    exact ⟨source, isExpression ▸ member⟩
  · rintro ⟨source, member⟩
    exact ⟨_, member, (Operand.isDeferred_ofArgument_iff _).mpr ⟨source, rfl⟩⟩

theorem Intent.qualifierList_bindRoot {intent : Intent} {branch : Branch}
    (oneBranch : intent.filledBranches = [branch]) (arguments : List Json) :
    (Criteria.mk (intent.bindRoot arguments)).qualifierList =
      bindParts branch.parts arguments := by
  rcases intent.bindRoot_cases arguments with
    ⟨noBranch, _⟩ | ⟨only, isOnly, isRoot⟩ | ⟨first, second, rest, _, moreBranches, _⟩
  · rw [oneBranch] at noBranch
    cases noBranch
  · rw [oneBranch] at isOnly
    cases isOnly
    rw [isRoot]
    exact (collapse_and_of_leaves fun _ => leaf_of_mem_bindParts).2
  · rw [oneBranch] at moreBranches
    cases moreBranches

/-- Some part beside the key, in the only branch that has parts, is given an expression. -/
def Intent.DefersBesideKey (intent : Intent) (keyField : String) (arguments : List Json) : Prop :=
  ∃ branch earlier part later,
    intent.filledBranches = [branch] ∧ branch.parts = earlier ++ part :: later ∧
    part.property ≠ keyField ∧
    ∃ source, .object [(Operand.expressionKey, .string source)] ∈
      argumentBlock arguments (Part.totalArity earlier) part.arity

/-- Whether a condition beside the key mentions a deferred operand. -/
def Criteria.DefersBesideKey (keyField : String) (criteria : Criteria) : Prop :=
  ∃ qualifier ∈ criteria.qualifierList,
    qualifier.isOn keyField = false ∧ qualifier.mentionsDeferred = true

theorem Intent.defersBesideKey_iff {intent : Intent} {branch : Branch}
    (oneBranch : intent.filledBranches = [branch]) (keyField : String) (arguments : List Json) :
    (Criteria.mk (intent.bindRoot arguments)).DefersBesideKey keyField ↔
      intent.DefersBesideKey keyField arguments := by
  unfold Criteria.DefersBesideKey
  rw [qualifierList_bindRoot oneBranch]
  constructor
  · rintro ⟨qualifier, member, beside, deferred⟩
    obtain ⟨earlier, part, later, isSplit, isPart⟩ := (mem_bindParts_iff _ _ _).mp member
    rw [isPart, Part.mentionsDeferred_bind_iff] at deferred
    rw [isPart, Bool.eq_false_iff, Ne, Part.isOn_bind_iff] at beside
    exact ⟨branch, earlier, part, later, oneBranch, isSplit, beside, deferred⟩
  · rintro ⟨other, earlier, part, later, isOther, isSplit, beside, deferred⟩
    rw [oneBranch] at isOther
    cases isOther
    refine ⟨_, (mem_bindParts_iff _ _ _).mpr ⟨earlier, part, later, isSplit, rfl⟩, ?_, ?_⟩
    · rw [Bool.eq_false_iff, Ne, Part.isOn_bind_iff]
      exact beside
    · exact (part.mentionsDeferred_bind_iff _ _).mpr deferred

/-- The filters of a read by key are deferred exactly where the conditions beside the key are. With
the usual binding these are the parts beside the key that are given an expression. -/
theorem key_read_defers_iff (registration : Registration) (parameters : List Json)
    (arguments : Arguments) (store : Store) (call : Call) (filters : List Qualifier)
    (called : call ∈ (registration.execute parameters arguments store).calls)
    (handed : call.filters? = some filters) :
    let criteria := (registration.prepare parameters arguments).value.criteria
    let deferred := ∃ filter ∈ filters, filter.mentionsDeferred = true
    (deferred ↔ criteria.DefersBesideKey registration.keyField) ∧
    (registration.binder = Intent.bind →
      (deferred ↔
        registration.intent.DefersBesideKey registration.keyField arguments.values)) := by
  intro criteria deferred
  obtain ⟨conjunction, before, condition, value, after, split, isRest⟩ :=
    (registration.route_execute parameters arguments store).keySplit_of_mem called handed
  have beside : deferred ↔ criteria.DefersBesideKey registration.keyField := by
    have kept : filters = withoutKey registration.keyField criteria.qualifierList :=
      isRest.trans split.withoutKey_eq.symm
    simp only [deferred, Criteria.DefersBesideKey, kept, withoutKey, List.mem_filter,
      Bool.not_eq_true', and_assoc]
  refine ⟨beside, ?_⟩
  intro usual
  have bound : criteria = ⟨registration.intent.bindRoot arguments.values⟩ :=
    registration.criteria_prepare_of_usual parameters arguments usual
  obtain ⟨position, ⟨branch, _, _, _, oneBranch, _⟩, _⟩ :=
    (registration.intent.keySplit_bindRoot_iff registration.keyField arguments.values value).mp
      (bound ▸ ⟨conjunction, before, condition, after, split⟩)
  rw [beside, bound]
  exact Intent.defersBesideKey_iff oneBranch registration.keyField arguments.values

/-- Both bounds of a range beside the key are arguments of their own, and the second is deferred. -/
theorem batch_read_defers_second_bound :
    let registration := Registration.ofIntent (.ofParts [⟨"age", .between⟩, ⟨"id", .among⟩])
    let keys : List Json := [.string "p1", .string "p2"]
    let high : Json := .object [(Operand.expressionKey, .string "#high")]
    let arguments := Arguments.ofValues [.ofNat 18, high, .array keys]
    let filters := [Part.bind ⟨"age", .between⟩ [.ofNat 18, high]]
    let call := Call.readMany keys ⟨"Person"⟩ ⟨"Person"⟩ filters
    call ∈ (registration.execute [] arguments fun _ => .ok []).calls ∧
      call.filters? = some filters ∧
      ∃ filter ∈ filters, filter.mentionsDeferred = true := by
  intro registration keys high arguments filters call
  have called : call ∈ (registration.execute [] arguments fun _ => .ok []).calls :=
    List.mem_cons_self
  have beside : registration.intent.DefersBesideKey "id" arguments.values := by
    refine ⟨⟨[⟨"age", .between⟩, ⟨"id", .among⟩]⟩, [], ⟨"age", .between⟩, [⟨"id", .among⟩], rfl, rfl,
      by decide, "#high", ?_⟩
    exact List.mem_cons_of_mem _ List.mem_cons_self
  have deferred := key_read_defers_iff registration [] arguments _ call filters called rfl
  exact ⟨called, rfl, (deferred.2 rfl).mpr beside⟩

/-- The condition beside the key reaches the store unresolved. -/
theorem deferred_filter_handed_over :
    ¬ ∀ (registration : Registration) (parameters : List Json) (arguments : Arguments)
        (store : Store) (call : Call) (filters : List Qualifier),
      call ∈ (registration.execute parameters arguments store).calls →
      call.filters? = some filters →
      ∀ filter ∈ filters, filter.mentionsDeferred = false := by
  intro claim
  let registration := Registration.ofIntent (.ofParts [⟨"id", .equal⟩, ⟨"owner", .equal⟩])
  let arguments := Arguments.ofValues
    [.string "d1", .object [(Operand.expressionKey, .string "#owner")]]
  let owner : Qualifier := .comparison "owner" .equal (.expression "#owner")
  let call : Call := .readOne (.string "d1") ⟨"Person"⟩ ⟨"Person"⟩ [owner]
  have called : call ∈ (registration.execute [] arguments fun _ => .ok []).calls :=
    List.mem_cons_self
  have resolved := claim registration [] arguments _ call [owner] called rfl owner
    List.mem_cons_self
  revert resolved
  decide

end KeyedQuery
