import KeyedQuery.Proofs.Deferral

/-!
What groups have of their own.

A group has a field and operands like a leaf, and only its operator means anything. Cleared of the
rest at every depth, a tree has the same field, the same path and key and the same texts, and leaves
the same filters, cleared. What remains is the first operand of a group at the root: if it is
deferred, a plan has variables because of it.
-/

set_option autoImplicit false

namespace KeyedQuery

/-! ### Trees cleared of what groups have of their own -/

namespace Qualifier

mutual

/-- The tree in which groups have nothing of their own but their operators. -/
def bare : Qualifier → Qualifier
  | .leaf condition => .leaf condition
  | .group head nested => .join head.operator (bareAll nested)

def bareAll : List Qualifier → List Qualifier
  | [] => []
  | qualifier :: rest => bare qualifier :: bareAll rest

end

theorem bareAll_eq_map (qualifiers : List Qualifier) : bareAll qualifiers = qualifiers.map bare := by
  induction qualifiers with
  | nil => rfl
  | cons qualifier rest ih => rw [bareAll, List.map_cons, ih]

@[simp] theorem bare_leaf (condition : Condition) : (leaf condition).bare = leaf condition := by
  rw [bare]

@[simp] theorem bare_group (head : Condition) (nested : List Qualifier) :
    (group head nested).bare = join head.operator (nested.map bare) := by
  rw [bare, bareAll_eq_map]

theorem isOn_bare (keyField : String) (qualifier : Qualifier) :
    qualifier.bare.isOn keyField = qualifier.isOn keyField := by
  cases qualifier with
  | leaf condition => rw [bare_leaf]
  | group head nested =>
      rw [bare_group]
      rfl

/-- A qualifier on the key field is a leaf, which has nothing to clear. -/
theorem bare_of_isOn {keyField : String} {qualifier : Qualifier}
    (onKey : qualifier.isOn keyField = true) : qualifier.bare = qualifier := by
  obtain ⟨condition, isLeaf, _⟩ := (isOn_iff keyField qualifier).mp onKey
  rw [isLeaf, bare_leaf]

mutual

theorem text_bare (qualifier : Qualifier) : qualifier.bare.text = qualifier.text := by
  cases qualifier with
  | leaf condition => rw [bare]
  | group head nested => rw [bare, join, text, text, texts_bareAll nested]

theorem texts_bareAll (qualifiers : List Qualifier) :
    texts (bareAll qualifiers) = texts qualifiers := by
  cases qualifiers with
  | nil => rw [bareAll]
  | cons qualifier rest => rw [bareAll, texts, texts, text_bare qualifier, texts_bareAll rest]

end

end Qualifier

/-! ### Lists of qualifiers -/

section Lists

variable (keyField : String) (qualifiers : List Qualifier)

theorem filter_isOn_bare :
    (qualifiers.map Qualifier.bare).filter (Qualifier.isOn keyField) =
      qualifiers.filter (Qualifier.isOn keyField) := by
  have sameTest : Qualifier.isOn keyField ∘ Qualifier.bare = Qualifier.isOn keyField :=
    funext (Qualifier.isOn_bare keyField)
  have unchanged : ∀ qualifier ∈ qualifiers.filter (Qualifier.isOn keyField),
      qualifier.bare = id qualifier := by
    intro qualifier member
    exact Qualifier.bare_of_isOn (List.mem_filter.mp member).2
  rw [List.filter_map, sameTest, List.map_congr_left unchanged, List.map_id]

theorem withoutKey_bare :
    withoutKey keyField (qualifiers.map Qualifier.bare) =
      (withoutKey keyField qualifiers).map Qualifier.bare := by
  unfold withoutKey
  rw [List.filter_map]
  simp only [Function.comp_def, Qualifier.isOn_bare]

theorem conjunctionPath_bare :
    conjunctionPath keyField (qualifiers.map Qualifier.bare) =
      conjunctionPath keyField qualifiers := by
  unfold conjunctionPath
  rw [filter_isOn_bare, List.length_map]

theorem keyValue_bare :
    keyValue keyField (qualifiers.map Qualifier.bare) = keyValue keyField qualifiers := by
  unfold keyValue
  rw [filter_isOn_bare]

end Lists

/-! ### Criteria -/

namespace Criteria

def bare (criteria : Criteria) : Criteria :=
  ⟨criteria.root.bare⟩

section Views

variable (criteria : Criteria)

/-- A view of criteria shows bare criteria alike, unless it tells a group at the root from the bare
one. -/
theorem view_bare {View : Type} (view : Criteria → View)
    (sameGroup : ∀ head nested,
      view ⟨.join head.operator (nested.map Qualifier.bare)⟩ = view ⟨.group head nested⟩) :
    view criteria.bare = view criteria := by
  obtain ⟨root⟩ := criteria
  cases root with
  | leaf condition => rw [bare, Qualifier.bare_leaf]
  | group head nested =>
      rw [bare, Qualifier.bare_group]
      exact sameGroup head nested

theorem field_bare : criteria.bare.field = criteria.field :=
  criteria.view_bare field fun _ _ => rfl

theorem isConjunction_bare : criteria.bare.isConjunction = criteria.isConjunction :=
  criteria.view_bare isConjunction fun _ _ => rfl

theorem qualifierList_bare :
    criteria.bare.qualifierList = criteria.qualifierList.map Qualifier.bare := by
  obtain ⟨root⟩ := criteria
  cases root with
  | leaf condition => simp [bare, qualifierList]
  | group head nested =>
      rw [bare, Qualifier.bare_group]
      rfl

theorem accessPath_bare (keyField : String) (criteria : Criteria) :
    criteria.bare.accessPath keyField = criteria.accessPath keyField := by
  rw [accessPath_eq, accessPath_eq, isConjunction_bare, qualifierList_bare, conjunctionPath_bare]

theorem map_text_qualifierList_bare :
    criteria.bare.qualifierList.map Qualifier.text = criteria.qualifierList.map Qualifier.text := by
  have sameText : Qualifier.text ∘ Qualifier.bare = Qualifier.text := funext Qualifier.text_bare
  rw [qualifierList_bare, List.map_map, sameText]

/-- A group at the root brings variables by an operand of its own, and by nothing else. -/
theorem requiresEvaluation_eq_or :
    criteria.requiresEvaluation =
      (criteria.bare.requiresEvaluation || criteria.rootGroupDefers) := by
  obtain ⟨root⟩ := criteria
  cases root with
  | leaf condition =>
      have noGroup : (Criteria.mk (.leaf condition)).rootGroupDefers = false := rfl
      rw [noGroup, Bool.or_false, bare, Qualifier.bare_leaf]
  | group head nested =>
      rw [bare, Qualifier.bare_group]
      rfl

theorem rootGroupDefers_eq_false_of_bare (required : criteria.bare.requiresEvaluation = true) :
    criteria.rootGroupDefers = false := by
  obtain ⟨root⟩ := criteria
  cases root with
  | leaf condition => rfl
  | group head nested =>
      rw [bare, Qualifier.bare_group] at required
      cases required

end Views

variable {left right : Criteria}

theorem eq_of_bare {View : Type} {view : Criteria → View}
    (unchanged : ∀ criteria, view criteria.bare = view criteria) (alike : left.bare = right.bare) :
    view left = view right := by
  rw [← unchanged left, alike, unchanged right]

theorem requiresEvaluation_eq_iff (alike : left.bare = right.bare) :
    left.requiresEvaluation = right.requiresEvaluation ↔
      left.rootGroupDefers = right.rootGroupDefers := by
  rw [left.requiresEvaluation_eq_or, right.requiresEvaluation_eq_or, alike]
  cases required : right.bare.requiresEvaluation with
  | false => rw [Bool.false_or, Bool.false_or]
  | true =>
      have leftNone := left.rootGroupDefers_eq_false_of_bare (alike ▸ required)
      have rightNone := right.rootGroupDefers_eq_false_of_bare required
      rw [leftNone, rightNone]
      exact iff_of_true rfl rfl

end Criteria

/-! ### Plans and calls -/

/-- The plan with bare criteria and without its variables. -/
def Plan.bare (plan : Plan) : Plan :=
  { plan with criteria := plan.criteria.bare, context := none }

theorem Plan.explain_eq_bare (plan : Plan) (path : AccessPath) (target : RecordType) :
    plan.explain path target =
      { plan.bare.explain path target with deferred := plan.context.isSome } := by
  have texts : plan.bare.criteria.qualifierList.map Qualifier.text =
      plan.criteria.qualifierList.map Qualifier.text :=
    plan.criteria.map_text_qualifierList_bare
  have combinator :
      (if plan.bare.criteria.root.isGroup then some plan.bare.criteria.root.operator.name
        else none) =
      if plan.criteria.root.isGroup then some plan.criteria.root.operator.name else none :=
    plan.criteria.view_bare
      (fun criteria => if criteria.root.isGroup then some criteria.root.operator.name else none)
      fun _ _ => rfl
  unfold explain
  rw [texts, combinator]
  rfl

theorem Plan.explain_eq_of_bare {left right : Plan} (alike : left.bare = right.bare)
    (path : AccessPath) (target : RecordType) :
    left.explain path target =
      { right.explain path target with deferred := left.context.isSome } := by
  rw [left.explain_eq_bare, right.explain_eq_bare, alike]

namespace Call

/-- The call with bare filters or a bare plan. -/
def bare : Call → Call
  | .readOne key source target filters => .readOne key source target (filters.map Qualifier.bare)
  | .readMany keys source target filters =>
      .readMany keys source target (filters.map Qualifier.bare)
  | .scan plan source target => .scan plan.bare source target

theorem bare_ofKeys (source target : RecordType) (filters : List Qualifier)
    (argument : KeyArgument) :
    (ofKeys source target filters argument).bare =
      ofKeys source target (filters.map Qualifier.bare) argument := by
  cases argument with
  | single key => rfl
  | batch keys => rfl

theorem map_bare_ofKeys (source target : RecordType) (filters : List Qualifier)
    (keys? : Option KeyArgument) :
    (keys?.map (ofKeys source target filters)).toList.map bare =
      (keys?.map (ofKeys source target (filters.map Qualifier.bare))).toList := by
  cases keys? with
  | none => rfl
  | some argument => exact congrArg ([·]) (bare_ofKeys source target filters argument)

end Call

theorem KeySplit.value_eq_and_bare_eq {keyField : String}
    {left leftBefore leftAfter right rightBefore rightAfter : List Qualifier}
    {leftCondition rightCondition : Condition} {leftValue rightValue : Json}
    (leftSplit : KeySplit keyField left leftBefore leftCondition leftValue leftAfter)
    (rightSplit : KeySplit keyField right rightBefore rightCondition rightValue rightAfter)
    (alike : left.map Qualifier.bare = right.map Qualifier.bare) :
    leftValue = rightValue ∧
      (leftBefore ++ leftAfter).map Qualifier.bare =
        (rightBefore ++ rightAfter).map Qualifier.bare := by
  have values := congrArg (keyValue keyField) alike
  rw [keyValue_bare, keyValue_bare, leftSplit.keyValue_eq, rightSplit.keyValue_eq] at values
  have filters := congrArg (withoutKey keyField) alike
  rw [withoutKey_bare, withoutKey_bare, leftSplit.withoutKey_eq, rightSplit.withoutKey_eq]
    at filters
  exact ⟨Except.ok.inj values, filters⟩

/-- Plans that are alike when bare ask for the same keys, and leave filters that are alike when
bare. -/
theorem Route.bare_calls_eq {keyField : String} {leftPlan rightPlan : Plan}
    {source target : RecordType} {store : Store}
    {leftOutcome rightOutcome : Observed (Except QueryError (List Json))}
    (leftRoute : Route keyField leftPlan source target store leftOutcome)
    (rightRoute : Route keyField rightPlan source target store rightOutcome)
    (alike : leftPlan.bare = rightPlan.bare) :
    leftOutcome.calls.map Call.bare = rightOutcome.calls.map Call.bare := by
  have criteria : leftPlan.criteria.bare = rightPlan.criteria.bare := congrArg Plan.criteria alike
  have path : leftPlan.criteria.accessPath keyField = rightPlan.criteria.accessPath keyField :=
    Criteria.eq_of_bare (Criteria.accessPath_bare keyField) criteria
  have lists : leftPlan.criteria.qualifierList.map Qualifier.bare =
      rightPlan.criteria.qualifierList.map Qualifier.bare := by
    rw [← Criteria.qualifierList_bare, criteria, Criteria.qualifierList_bare]
  cases leftRoute with
  | scanned leftScans leftAsks =>
      cases rightRoute with
      | scanned rightScans rightAsks =>
          rw [leftAsks.calls, rightAsks.calls]
          exact congrArg (fun plan : Plan => [Call.scan plan source target]) alike
      | read rightSplit conjunction rightAsks =>
          exact absurd (path.symm.trans leftScans) (rightSplit.accessPath_ne_scan conjunction)
  | read leftSplit conjunction leftAsks =>
      cases rightRoute with
      | scanned rightScans rightAsks =>
          exact absurd (path.trans rightScans) (leftSplit.accessPath_ne_scan conjunction)
      | read rightSplit _ rightAsks =>
          obtain ⟨value, filters⟩ := leftSplit.value_eq_and_bare_eq rightSplit lists
          rw [leftAsks.calls, rightAsks.calls, Call.map_bare_ofKeys, Call.map_bare_ofKeys, value,
            filters]

/-! ### Methods bound to trees that differ in what groups have of their own -/

/-- The method with the given criteria in place of those that it would be bound to. -/
def Registration.withCriteria (registration : Registration) (criteria : Criteria) : Registration :=
  { registration with
    binder := fun intent arguments =>
      { registration.binder intent arguments with criteria := criteria } }

theorem Registration.bare_prepare_eq (registration : Registration) {left right : Criteria}
    (alike : left.bare = right.bare) (parameters : List Json) (arguments : Arguments) :
    ((registration.withCriteria left).prepare parameters arguments).value.bare =
      ((registration.withCriteria right).prepare parameters arguments).value.bare := by
  rw [value_prepare, value_prepare]
  dsimp only [Plan.bare, withCriteria]
  rw [alike]

/-- Of what groups have of their own besides operators, only the first operand of a group at the
root has an effect, and this on whether a plan has variables. All else is the same for trees that
are alike when bare, but for the unused parts of groups among the filters of a read by key. -/
theorem group_heads_matter_at_root_only (registration : Registration) (left right : Criteria)
    (parameters : List Json) (arguments : Arguments) (store : Store)
    (alike : left.bare = right.bare) :
    let leftQuery := registration.withCriteria left
    let rightQuery := registration.withCriteria right
    let leftPlan := (leftQuery.prepare parameters arguments).value
    let rightPlan := (rightQuery.prepare parameters arguments).value
    let leftExplanation := (leftQuery.explain parameters arguments).value
    let rightExplanation := (rightQuery.explain parameters arguments).value
    let leftOutcome := leftQuery.execute parameters arguments store
    let rightOutcome := rightQuery.execute parameters arguments store
    left.field = right.field ∧
    (∀ keyField, left.accessPath keyField = right.accessPath keyField) ∧
    leftExplanation = { rightExplanation with deferred := leftExplanation.deferred } ∧
    leftOutcome.calls.map Call.bare = rightOutcome.calls.map Call.bare ∧
    (leftPlan.context.isSome = rightPlan.context.isSome ↔
      left.rootGroupDefers = right.rootGroupDefers) := by
  intro leftQuery rightQuery leftPlan rightPlan leftExplanation rightExplanation leftOutcome
    rightOutcome
  have alikePlans : leftPlan.bare = rightPlan.bare :=
    registration.bare_prepare_eq alike parameters arguments
  have samePath (keyField : String) : left.accessPath keyField = right.accessPath keyField :=
    Criteria.eq_of_bare (Criteria.accessPath_bare keyField) alike
  refine ⟨Criteria.eq_of_bare Criteria.field_bare alike, samePath, ?_, ?_, ?_⟩
  · have path : leftQuery.accessPath leftPlan = rightQuery.accessPath rightPlan :=
      Criteria.eq_of_bare (Criteria.accessPath_bare _) (congrArg Plan.criteria alikePlans)
    calc
      leftExplanation =
          leftPlan.explain (rightQuery.accessPath rightPlan) (registration.chosenType arguments) :=
        congrArg (leftPlan.explain · (registration.chosenType arguments)) path
      _ = { rightExplanation with deferred := leftExplanation.deferred } :=
        Plan.explain_eq_of_bare alikePlans _ _
  · exact (leftQuery.route_execute parameters arguments store).bare_calls_eq
      (rightQuery.route_execute parameters arguments store) alikePlans
  · rw [leftQuery.isSome_context_prepare, rightQuery.isSome_context_prepare,
      leftQuery.criteria_prepare, rightQuery.criteria_prepare]
    exact Criteria.requiresEvaluation_eq_iff alike

/-- A group among the filters shows the key field and a deferred operand as its own. -/
theorem nested_group_head_ignored :
    let person : RecordType := ⟨"Person"⟩
    let key : Qualifier := .equal "id" (.string "d1")
    let owners : List Qualifier := [.equal "owner" (.string "bob"), .test "owner" .isNull]
    let head : Condition := ⟨some "id", .or, some (.expression "#x"), some (.literal .null)⟩
    let left : Criteria := ⟨.allOf [key, .group head owners]⟩
    let right : Criteria := ⟨.allOf [key, .anyOf owners]⟩
    let query := (Registration.ofCriteria right).withCriteria left
    left.bare = right.bare ∧
      (query.execute [] .empty fun _ => .ok []).calls.map Call.bare =
        [.readOne (.string "d1") person person [.anyOf owners]] := by
  intro person key owners head left right query
  have alike : left.bare = right.bare := rfl
  have sameCalls := (group_heads_matter_at_root_only (.ofCriteria right) left right [] .empty
    (fun _ => .ok []) alike).2.2.2.1
  exact ⟨alike, sameCalls.trans rfl⟩

/-- The operand of a group at the root brings variables to a plan that has none without it. -/
theorem root_group_operand_brings_variables :
    ¬ ∀ (registration : Registration) (left right : Criteria) (parameters : List Json)
        (arguments : Arguments), left.bare = right.bare →
      ((registration.withCriteria left).prepare parameters arguments).value.context.isSome =
        ((registration.withCriteria right).prepare parameters arguments).value.context.isSome := by
  intro claim
  let members : List Qualifier := [.equal "name" (.string "Ann"), .greater "age" (.ofNat 30)]
  let left : Criteria := ⟨.group ⟨none, .and, some (.expression "#x"), none⟩ members⟩
  let right : Criteria := ⟨.allOf members⟩
  have alike : left.bare = right.bare := rfl
  have same := claim (.ofCriteria left) left right [] .empty alike
  cases same

end KeyedQuery
