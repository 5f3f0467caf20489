import KeyedQuery.Invocation

/-!
What a plan is made of.

The criteria of a plan are the binder's, its distinct flag is the intent's, and its order, its part
of the result and its variables each come from the first of their sources that has one. The
contract says so field by field. One plan meets it, and that is the one that is prepared.
-/

set_option autoImplicit false

namespace KeyedQuery

attribute [ext] Plan

/-- A page goes before the greatest number of records, which does not limit it any further. -/
def Intent.limitFor (intent : Intent) : Pageable → UInt64
  | .paged _ _ => noLimit
  | .unpaged => intent.maxResults.getD noLimit

/-- What a plan takes from its sources. -/
structure Plan.Contract (registration : Registration) (parameters : List Json)
    (arguments : Arguments) (plan : Plan) : Prop where
  criteria : plan.criteria = (registration.binder registration.intent arguments).criteria
  distinct : plan.distinct = registration.intent.distinct
  callerOrder : arguments.order.keys ≠ [] → plan.order = arguments.order
  boundOrder : arguments.order.keys = [] →
    plan.order = (registration.binder registration.intent arguments).order
  page : ∀ offset size, arguments.pageable = .paged offset size →
    (plan.offset, plan.rows, plan.limit) = (offset, size, 0)
  greatest : ∀ maxResults, arguments.pageable = .unpaged →
    registration.intent.maxResults = some maxResults →
    (plan.offset, plan.rows, plan.limit) = (-1, -1, maxResults)
  unbounded : arguments.pageable = .unpaged → registration.intent.maxResults = none →
    (plan.offset, plan.rows, plan.limit) = (-1, -1, 0)
  boundContext : (∃ source, plan.criteria.root.value1 = some (.expression source)) →
    plan.context = some (registration.contextProvider registration.method.parameters parameters)
  noContext : (∀ source, plan.criteria.root.value1 ≠ some (.expression source)) →
    plan.context = none

theorem OrderBy.isSorted_iff {order : OrderBy} : order.isSorted = true ↔ order.keys ≠ [] := by
  simp [OrderBy.isSorted]

namespace Registration

theorem boundResult_ofCriteria (intent : Intent) (pageable : Pageable) (criteria : Criteria) :
    boundResult intent pageable (.ofCriteria criteria) =
      { Plan.ofCriteria criteria with
        offset := pageable.bounds.1
        rows := pageable.bounds.2
        limit := intent.limitFor pageable } := by
  unfold boundResult Intent.limitFor
  cases pageable with
  | paged offset pageSize => rfl
  | unpaged =>
      cases intent.maxResults with
      | none => rfl
      | some maxResults => rfl

variable (registration : Registration) (parameters : List Json) (arguments : Arguments)

theorem value_prepare :
    let bound := registration.binder registration.intent arguments
    (registration.prepare parameters arguments).value =
      { criteria := bound.criteria
        offset := arguments.pageable.bounds.1
        rows := arguments.pageable.bounds.2
        order := if arguments.order.isSorted then arguments.order else bound.order
        distinct := registration.intent.distinct
        limit := registration.intent.limitFor arguments.pageable
        context :=
          if bound.criteria.requiresEvaluation then
            some (registration.contextProvider registration.method.parameters parameters)
          else none } := by
  intro bound
  change registration.assemble parameters arguments = _
  unfold assemble
  dsimp only
  rw [boundResult_ofCriteria]
  split
  · rfl
  · rfl

theorem entries_prepare :
    (registration.prepare parameters arguments).entries =
      if registration.config.logQueries then
        [registration.preparedEntry (registration.prepare parameters arguments).value]
      else [] :=
  List.append_nil _

theorem contract_prepare :
    (registration.prepare parameters arguments).value.Contract registration parameters
      arguments := by
  rw [value_prepare]
  constructor
  case criteria => rfl
  case distinct => rfl
  case callerOrder =>
    intro hasKeys
    have sorted : arguments.order.isSorted = true := OrderBy.isSorted_iff.mpr hasKeys
    exact if_pos sorted
  case boundOrder =>
    intro noKeys
    have unsorted : ¬ arguments.order.isSorted = true := fun sorted =>
      OrderBy.isSorted_iff.mp sorted noKeys
    exact if_neg unsorted
  case page =>
    intro offset size paged
    rw [paged]
    rfl
  case greatest =>
    intro maxResults unpaged limited
    rw [unpaged]
    simp only [Pageable.bounds, Intent.limitFor, limited]
    rfl
  case unbounded =>
    intro unpaged unlimited
    rw [unpaged]
    simp only [Pageable.bounds, Intent.limitFor, unlimited]
    rfl
  case boundContext =>
    intro deferred
    exact if_pos ((isDeferredOperand_iff _).mpr deferred)
  case noContext =>
    intro notDeferred
    apply if_neg
    intro required
    obtain ⟨source, isExpression⟩ := (isDeferredOperand_iff _).mp required
    exact notDeferred source isExpression

end Registration

namespace Plan.Contract

variable {registration : Registration} {parameters : List Json} {arguments : Arguments}
  {plan other : Plan}

/-- The requested page and the greatest number of records decide the part of the result. -/
theorem part_eq (left : plan.Contract registration parameters arguments)
    (right : other.Contract registration parameters arguments) :
    (plan.offset, plan.rows, plan.limit) = (other.offset, other.rows, other.limit) := by
  cases request : arguments.pageable with
  | paged offset size =>
      exact (left.page offset size request).trans (right.page offset size request).symm
  | unpaged =>
      cases greatest : registration.intent.maxResults with
      | none =>
          exact (left.unbounded request greatest).trans
            (right.unbounded request greatest).symm
      | some maxResults =>
          exact (left.greatest maxResults request greatest).trans
            (right.greatest maxResults request greatest).symm

theorem order_eq (left : plan.Contract registration parameters arguments)
    (right : other.Contract registration parameters arguments) : plan.order = other.order := by
  by_cases noKeys : arguments.order.keys = []
  · exact (left.boundOrder noKeys).trans (right.boundOrder noKeys).symm
  · exact (left.callerOrder noKeys).trans (right.callerOrder noKeys).symm

theorem context_eq (left : plan.Contract registration parameters arguments)
    (right : other.Contract registration parameters arguments) :
    plan.context = other.context := by
  have sameCriteria : plan.criteria = other.criteria := left.criteria.trans right.criteria.symm
  by_cases deferred : ∃ source, plan.criteria.root.value1 = some (.expression source)
  · have otherDeferred := sameCriteria ▸ deferred
    exact (left.boundContext deferred).trans (right.boundContext otherDeferred).symm
  · have notDeferred := not_exists.mp deferred
    have otherNotDeferred := sameCriteria ▸ notDeferred
    exact (left.noContext notDeferred).trans (right.noContext otherNotDeferred).symm

theorem unique (left : plan.Contract registration parameters arguments)
    (right : other.Contract registration parameters arguments) : plan = other := by
  obtain ⟨offset, rows, limit⟩ : plan.offset = other.offset ∧ plan.rows = other.rows ∧
      plan.limit = other.limit := by
    have parts := left.part_eq right
    simpa only [Prod.mk.injEq] using parts
  apply Plan.ext
  · exact left.criteria.trans right.criteria.symm
  · exact offset
  · exact rows
  · exact left.order_eq right
  · exact left.distinct.trans right.distinct.symm
  · exact limit
  · exact left.context_eq right

/-- Where there is a page there is no limit, and without a page the offset is unset. -/
theorem not_paged_and_limited (contract : plan.Contract registration parameters arguments) :
    ¬ (plan.isPaged = true ∧ plan.isLimited = true) := by
  intro both
  have limited : plan.limit ≠ noLimit := bne_iff_ne.mp both.2
  have paged : plan.offset ≠ unset := bne_iff_ne.mp (Bool.and_eq_true_iff.mp both.1).1
  cases request : arguments.pageable with
  | paged offset size =>
      have parts := contract.page offset size request
      exact limited (congrArg (fun part => part.2.2) parts)
  | unpaged =>
      cases greatest : registration.intent.maxResults with
      | none => exact paged (congrArg Prod.fst (contract.unbounded request greatest))
      | some maxResults =>
          exact paged (congrArg Prod.fst (contract.greatest maxResults request greatest))

end Plan.Contract

/-- The prepared plan meets the contract of its sources, no other plan does, and it never has both
a page and a limit. -/
theorem prepared_plan_alone_meets_contract (registration : Registration) (parameters : List Json)
    (arguments : Arguments) :
    let plan := (registration.prepare parameters arguments).value
    plan.Contract registration parameters arguments ∧
      (∀ other : Plan, other.Contract registration parameters arguments → other = plan) ∧
      ¬ (plan.isPaged = true ∧ plan.isLimited = true) := by
  intro plan
  have contract : plan.Contract registration parameters arguments :=
    registration.contract_prepare parameters arguments
  refine ⟨contract, ?_, contract.not_paged_and_limited⟩
  intro other otherContract
  exact otherContract.unique contract

end KeyedQuery
