import KeyedQuery.Proofs.StoreCalls

/-!
Requests that coincide with the words for none.

A plan says that its offset, its rows or its limit is unset by a word that a request may hold too.
So a page at the offset minus one or with minus one rows is no page, and the first zero records are
no limit. Every other request is seen in the plan, and in its explanation with its own words.
-/

set_option autoImplicit false

namespace KeyedQuery

/-! ### Requests that can be told from none -/

/-- A page is asked for, and neither of its words is the one for none. -/
structure Pageable.AsksFor (pageable : Pageable) (offset pageSize : Int64) : Prop where
  paged : pageable = .paged offset pageSize
  offsetSet : offset ≠ unset
  sizeSet : pageSize ≠ unset

/-- No page is asked for, and the intent has a greatest number of records, which is not the word for
none. -/
structure Intent.LimitsTo (intent : Intent) (pageable : Pageable) (limit : UInt64) : Prop where
  unpaged : pageable = .unpaged
  greatest : intent.maxResults = some limit
  limitSet : limit ≠ noLimit

theorem Pageable.asksFor_iff_bounds (pageable : Pageable) (offset pageSize : Int64) :
    pageable.AsksFor offset pageSize ↔
      (pageable.bounds.1 ≠ unset ∧ pageable.bounds.2 ≠ unset) ∧
        pageable.bounds.1 = offset ∧ pageable.bounds.2 = pageSize := by
  cases pageable with
  | unpaged =>
      apply iff_of_false
      · intro asks
        cases asks.paged
      · intro both
        exact both.1.1 rfl
  | paged requested size =>
      constructor
      · intro asks
        cases asks.paged
        exact ⟨⟨asks.offsetSet, asks.sizeSet⟩, rfl, rfl⟩
      · intro both
        obtain ⟨⟨offsetSet, sizeSet⟩, sameOffset, sameSize⟩ := both
        subst sameOffset
        subst sameSize
        exact ⟨rfl, offsetSet, sizeSet⟩

theorem Intent.limitsTo_iff_limitFor (intent : Intent) (pageable : Pageable) (limit : UInt64) :
    intent.LimitsTo pageable limit ↔
      intent.limitFor pageable ≠ noLimit ∧ intent.limitFor pageable = limit := by
  cases pageable with
  | paged offset pageSize =>
      apply iff_of_false
      · intro limits
        cases limits.unpaged
      · intro both
        exact both.1 rfl
  | unpaged =>
      constructor
      · intro limits
        have held : intent.limitFor .unpaged = limit := congrArg (·.getD noLimit) limits.greatest
        rw [held]
        exact ⟨limits.limitSet, rfl⟩
      · intro both
        obtain ⟨limitSet, held⟩ := both
        rw [held] at limitSet
        refine ⟨rfl, ?_, limitSet⟩
        cases greatest : intent.maxResults with
        | none =>
            have unlimited : intent.limitFor .unpaged = noLimit :=
              congrArg (·.getD noLimit) greatest
            exact absurd (held.symm.trans unlimited) limitSet
        | some maxResults =>
            have limited : intent.limitFor .unpaged = maxResults :=
              congrArg (·.getD noLimit) greatest
            rw [← limited, held]

/-! ### What a plan and its explanation show -/

namespace Plan

variable (plan : Plan)

theorem isPaged_iff : plan.isPaged = true ↔ plan.offset ≠ unset ∧ plan.rows ≠ unset := by
  unfold isPaged
  rw [Bool.and_eq_true, bne_iff_ne, bne_iff_ne]

theorem isLimited_iff : plan.isLimited = true ↔ plan.limit ≠ noLimit := by
  unfold isLimited
  rw [bne_iff_ne]

variable (path : AccessPath) (target : RecordType)

/-- The explanation shows a word where the plan has it set, and the word is that of the plan. -/
theorem offset_explain_iff (offset : Int64) :
    (plan.explain path target).offset = some offset ↔
      plan.isPaged = true ∧ plan.offset = offset :=
  Option.ite_none_right_eq_some.trans (and_congr_right' Option.some_inj)

theorem rows_explain_iff (rows : Int64) :
    (plan.explain path target).rows = some rows ↔ plan.isPaged = true ∧ plan.rows = rows :=
  Option.ite_none_right_eq_some.trans (and_congr_right' Option.some_inj)

theorem limit_explain_iff (limit : UInt64) :
    (plan.explain path target).limit = some limit ↔
      plan.isLimited = true ∧ plan.limit = limit :=
  Option.ite_none_right_eq_some.trans (and_congr_right' Option.some_inj)

end Plan

namespace Registration

variable (registration : Registration) (parameters : List Json) (arguments : Arguments)

/-- The page that can be told from none is the one that the plan shows. -/
theorem asksFor_iff (offset pageSize : Int64) :
    let plan := (registration.prepare parameters arguments).value
    arguments.pageable.AsksFor offset pageSize ↔
      plan.isPaged = true ∧ plan.offset = offset ∧ plan.rows = pageSize := by
  intro plan
  have prepared := registration.value_prepare parameters arguments
  have offsetTaken : plan.offset = arguments.pageable.bounds.1 := congrArg Plan.offset prepared
  have rowsTaken : plan.rows = arguments.pageable.bounds.2 := congrArg Plan.rows prepared
  rw [plan.isPaged_iff, offsetTaken, rowsTaken]
  exact arguments.pageable.asksFor_iff_bounds offset pageSize

/-- The limit that can be told from none is the one that the plan shows. -/
theorem limitsTo_iff (limit : UInt64) :
    let plan := (registration.prepare parameters arguments).value
    registration.intent.LimitsTo arguments.pageable limit ↔
      plan.isLimited = true ∧ plan.limit = limit := by
  intro plan
  have prepared := registration.value_prepare parameters arguments
  have limitTaken : plan.limit = registration.intent.limitFor arguments.pageable :=
    congrArg Plan.limit prepared
  rw [plan.isLimited_iff, limitTaken]
  exact registration.intent.limitsTo_iff_limitFor arguments.pageable limit

end Registration

/-- A plan is paged, and limited, exactly where a page or a limit is asked for that can be told from
none, and the explanation shows the very words of the request. -/
theorem requests_beside_markers_are_shown (registration : Registration) (parameters : List Json)
    (arguments : Arguments) :
    let plan := (registration.prepare parameters arguments).value
    let explanation := (registration.explain parameters arguments).value
    let page := arguments.pageable.AsksFor
    let limit := registration.intent.LimitsTo arguments.pageable
    (plan.isPaged = true ↔ ∃ offset pageSize, page offset pageSize) ∧
    (plan.isLimited = true ↔ ∃ greatest, limit greatest) ∧
    (∀ offset, explanation.offset = some offset ↔ ∃ pageSize, page offset pageSize) ∧
    (∀ pageSize, explanation.rows = some pageSize ↔ ∃ offset, page offset pageSize) ∧
    (∀ greatest, explanation.limit = some greatest ↔ limit greatest) := by
  intro plan explanation page limit
  have pageShown := registration.asksFor_iff parameters arguments
  have limitShown := registration.limitsTo_iff parameters arguments
  refine ⟨?_, ?_, ?_, ?_, ?_⟩
  · constructor
    · intro paged
      exact ⟨plan.offset, plan.rows, (pageShown _ _).mpr ⟨paged, rfl, rfl⟩⟩
    · intro asked
      obtain ⟨offset, pageSize, asks⟩ := asked
      exact ((pageShown offset pageSize).mp asks).1
  · constructor
    · intro limited
      exact ⟨plan.limit, (limitShown _).mpr ⟨limited, rfl⟩⟩
    · intro asked
      obtain ⟨greatest, limits⟩ := asked
      exact ((limitShown greatest).mp limits).1
  · intro offset
    apply (plan.offset_explain_iff _ _ offset).trans
    constructor
    · intro shown
      exact ⟨plan.rows, (pageShown offset _).mpr ⟨shown.1, shown.2, rfl⟩⟩
    · intro asked
      obtain ⟨pageSize, asks⟩ := asked
      have shown := (pageShown offset pageSize).mp asks
      exact ⟨shown.1, shown.2.1⟩
  · intro pageSize
    apply (plan.rows_explain_iff _ _ pageSize).trans
    constructor
    · intro shown
      exact ⟨plan.offset, (pageShown _ pageSize).mpr ⟨shown.1, rfl, shown.2⟩⟩
    · intro asked
      obtain ⟨offset, asks⟩ := asked
      have shown := (pageShown offset pageSize).mp asks
      exact ⟨shown.1, shown.2.2⟩
  · intro greatest
    exact (plan.limit_explain_iff _ _ greatest).trans (limitShown greatest).symm

/-- Ten records from the offset minus one on are no page, and the first zero records no limit. -/
theorem request_at_marker_not_shown :
    (¬ ∀ (registration : Registration) (parameters : List Json) (arguments : Arguments),
      (registration.prepare parameters arguments).value.isPaged = true ↔
        arguments.pageable.isPaged = true) ∧
    ¬ ∀ (registration : Registration) (parameters : List Json) (arguments : Arguments),
      (registration.prepare parameters arguments).value.isLimited = true ↔
        arguments.pageable.isPaged = false ∧ registration.intent.isLimiting = true := by
  let registration := Registration.ofIntent ((Intent.ofParts [⟨"name", .equal⟩]).withMaxResults 0)
  let arguments := Arguments.ofValues [.string "Ann"]
  constructor
  · intro claim
    have paged := (claim registration [] (arguments.withPageable (.paged (-1) 10))).mpr rfl
    revert paged
    decide
  · intro claim
    have limited := (claim registration [] arguments).mpr ⟨rfl, rfl⟩
    revert limited
    decide

end KeyedQuery
