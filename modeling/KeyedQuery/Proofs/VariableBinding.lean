import Mathlib
import KeyedQuery.ParameterContext
import KeyedQuery.Proofs.RecordFields
import KeyedQuery.Proofs.Spelling

/-!
What the names of variables are bound to.

The positions of the values and the names of the parameters share one set of keys. A name belongs to
the last parameter of that name whose index is that of a value. Only where there is none, the
decimal spelling of a position belongs to the value at that position, and every other name is free.
-/

set_option autoImplicit false

namespace KeyedQuery

/-! ### Who binds a name -/

/-- The parameter has the name, and its index is that of a value. -/
structure Parameter.Reaches (parameter : Parameter) (values : List Json) (name : String) :
    Prop where
  named : parameter.name = name
  inRange : parameter.index.toNat < values.length

/-- Of the parameters that reach a value under the name, the parameter is the last one. -/
structure Parameter.LastReaches (parameter : Parameter) (parameters : List Parameter)
    (values : List Json) (name : String) : Prop where
  reaches : parameter.Reaches values name
  last : ∃ before after, parameters = before ++ parameter :: after ∧
    ∀ later ∈ after, ¬ later.Reaches values name

/-- The value that parameters and values give to a name. -/
inductive Binds (parameters : List Parameter) (values : List Json) (name : String) : Json → Prop
  | named {parameter : Parameter} {value : Json}
      (last : parameter.LastReaches parameters values name)
      (held : values[parameter.index.toNat]? = some value) :
      Binds parameters values name value
  | positioned {position : Nat} {value : Json}
      (unnamed : ∀ parameter ∈ parameters, ¬ parameter.Reaches values name)
      (spelled : name = Nat.repr position) (held : values[position]? = some value) :
      Binds parameters values name value

namespace Parameter

variable {values : List Json} {name : String}

theorem LastReaches.cons {parameter : Parameter} {parameters : List Parameter}
    (last : parameter.LastReaches parameters values name) (first : Parameter) :
    parameter.LastReaches (first :: parameters) values name := by
  obtain ⟨before, after, split, none⟩ := last.last
  exact ⟨last.reaches, first :: before, after, by rw [split, List.cons_append], none⟩

/-- Either no parameter reaches a value under the name, or one of them is the last to do so. -/
theorem exists_lastReaches_or_none (parameters : List Parameter) (values : List Json)
    (name : String) :
    (∃ parameter : Parameter, parameter.LastReaches parameters values name) ∨
      ∀ parameter ∈ parameters, ¬ parameter.Reaches values name := by
  induction parameters with
  | nil => exact Or.inr (fun _ member => nomatch member)
  | cons head tail ih =>
      rcases ih with ⟨parameter, last⟩ | none
      · exact Or.inl ⟨parameter, last.cons head⟩
      · by_cases reaches : head.Reaches values name
        · exact Or.inl ⟨head, reaches, [], tail, rfl, none⟩
        · exact Or.inr (List.forall_mem_cons.mpr ⟨reaches, none⟩)

end Parameter

/-! ### What is written, step by step -/

namespace EvaluationContext

variable (context : EvaluationContext)

theorem get?_bind (name wanted : String) (value : Json) :
    (context.bind name value).get? wanted =
      if wanted = name then some value else context.get? wanted :=
  context.bindings.get?_insert name wanted value

theorem get?_bindPositions_of_unspelled {name : String} (values : List Json) (start : Nat)
    (unspelled : ∀ position < values.length, name ≠ Nat.repr (start + position)) :
    (context.bindPositions start values).get? name = context.get? name := by
  induction values generalizing context start with
  | nil => rfl
  | cons head tail ih =>
      have notFirst : name ≠ Nat.repr start := unspelled 0 (Nat.succ_pos tail.length)
      have notLater : ∀ position < tail.length, name ≠ Nat.repr (start + 1 + position) := by
        intro position inRange
        rw [Nat.add_right_comm]
        exact unspelled (position + 1) (Nat.succ_lt_succ inRange)
      rw [bindPositions, ih _ _ notLater, get?_bind, if_neg notFirst]

/-- Distinct positions have distinct spellings, so what is bound behind a position leaves it. -/
theorem get?_bindPositions_repr {value : Json} (values : List Json) (start position : Nat)
    (held : values[position]? = some value) :
    (context.bindPositions start values).get? (Nat.repr (start + position)) = some value := by
  induction values generalizing context start position with
  | nil => cases held
  | cons head tail ih =>
      rw [bindPositions]
      cases position with
      | zero =>
          have notLater : ∀ later < tail.length, Nat.repr start ≠ Nat.repr (start + 1 + later) := by
            intro later _ same
            have sameNumber := Nat.repr_inj.mp same
            omega
          rw [Nat.add_zero start, get?_bindPositions_of_unspelled _ _ _ notLater, get?_bind, if_pos rfl]
          exact held
      | succ further =>
          have sameNumber : start + (further + 1) = start + 1 + further := by omega
          rw [sameNumber]
          exact ih _ _ _ held

theorem bindParameters_append (values : List Json) (before after : List Parameter) :
    context.bindParameters values (before ++ after) =
      (context.bindParameters values before).bindParameters values after := by
  induction before generalizing context with
  | nil => rfl
  | cons head tail ih =>
      rw [List.cons_append, bindParameters, bindParameters]
      split
      · exact ih _
      · exact ih _

/-- A parameter that does not reach a value under the name leaves the name as it is, whether it has
another name or its index is out of range. -/
theorem get?_bindParameters_of_unnamed {name : String} (values : List Json)
    (parameters : List Parameter)
    (unnamed : ∀ parameter ∈ parameters, ¬ parameter.Reaches values name) :
    (context.bindParameters values parameters).get? name = context.get? name := by
  induction parameters generalizing context with
  | nil => rfl
  | cons head tail ih =>
      obtain ⟨notHead, notTail⟩ := List.forall_mem_cons.mp unnamed
      rw [bindParameters]
      split
      · rename_i held
        have otherName : name ≠ head.name := by
          intro same
          exact notHead ⟨same.symm, (List.getElem?_eq_some_iff.mp held).1⟩
        rw [ih _ notTail, get?_bind, if_neg otherName]
      · exact ih _ notTail

theorem get?_bindParameters_of_last {name : String} {values : List Json}
    {parameters : List Parameter} {parameter : Parameter} {value : Json}
    (last : parameter.LastReaches parameters values name)
    (held : values[parameter.index.toNat]? = some value) :
    (context.bindParameters values parameters).get? name = some value := by
  obtain ⟨before, after, rfl, notLater⟩ := last.last
  rw [bindParameters_append, bindParameters, held]
  dsimp only
  rw [get?_bindParameters_of_unnamed _ _ _ notLater, get?_bind, if_pos last.reaches.named.symm]

/-! ### Sizes -/

theorem nodup_names : (context.bindings.entries.map Prod.fst).Nodup :=
  context.bindings.ordered.nodup

theorem mem_names_iff (name : String) :
    name ∈ context.bindings.entries.map Prod.fst ↔ ∃ value, context.get? name = some value := by
  constructor
  · intro member
    obtain ⟨entry, inEntries, rfl⟩ := List.mem_map.mp member
    exact ⟨entry.2, (Json.Document.lookup_eq_some_iff_mem context.nodup_names).mpr inEntries⟩
  · intro bound
    obtain ⟨value, found⟩ := bound
    exact List.mem_map_of_mem ((Json.Document.lookup_eq_some_iff_mem context.nodup_names).mp found)

end EvaluationContext

/-! ### The variables of a method -/

section

variable {parameters : List Parameter} {values : List Json} {name : String} {value : Json}

theorem get?_parameterContext_of_binds (binds : Binds parameters values name value) :
    (parameterContext parameters values).get? name = some value := by
  unfold parameterContext
  cases binds with
  | named last held => exact EvaluationContext.get?_bindParameters_of_last _ last held
  | @positioned position _ unnamed spelled held =>
      rw [EvaluationContext.get?_bindParameters_of_unnamed _ _ _ unnamed, spelled]
      have bound := EvaluationContext.empty.get?_bindPositions_repr values 0 position held
      rw [Nat.zero_add] at bound
      exact bound

theorem get?_parameterContext_eq_none
    (unnamed : ∀ parameter ∈ parameters, ¬ parameter.Reaches values name)
    (unspelled : ∀ position < values.length, name ≠ Nat.repr position) :
    (parameterContext parameters values).get? name = none := by
  unfold parameterContext
  rw [EvaluationContext.get?_bindParameters_of_unnamed _ _ _ unnamed]
  apply EvaluationContext.get?_bindPositions_of_unspelled
  intro position inRange
  rw [Nat.zero_add]
  exact unspelled position inRange

/-- A name that has a value has one by the rule. -/
theorem exists_binds_of_get? (found : (parameterContext parameters values).get? name = some value) :
    ∃ bound, Binds parameters values name bound := by
  rcases Parameter.exists_lastReaches_or_none parameters values name with ⟨parameter, last⟩ | unnamed
  · exact ⟨_, .named last (List.getElem?_eq_getElem last.reaches.inRange)⟩
  · by_cases spelled : ∃ position < values.length, name = Nat.repr position
    · obtain ⟨position, inRange, isPosition⟩ := spelled
      exact ⟨_, .positioned unnamed isPosition (List.getElem?_eq_getElem inRange)⟩
    · have unspelled : ∀ position < values.length, name ≠ Nat.repr position :=
        fun position inRange same => spelled ⟨position, inRange, same⟩
      rw [get?_parameterContext_eq_none unnamed unspelled] at found
      cases found

theorem get?_parameterContext_iff :
    (parameterContext parameters values).get? name = some value ↔
      Binds parameters values name value := by
  constructor
  · intro found
    obtain ⟨bound, binds⟩ := exists_binds_of_get? found
    have same : some bound = some value :=
      (get?_parameterContext_of_binds binds).symm.trans found
    cases same
    exact binds
  · exact get?_parameterContext_of_binds

end

/-- The variables of a method are those that its parameters and the values bind, each with the value
that is bound last, and their number is that of the distinct names. -/
theorem variables_are_bound_exactly (parameters : List Parameter) (values : List Json) :
    let context := parameterContext parameters values
    (∀ name value, context.get? name = some value ↔ Binds parameters values name value) ∧
      ∃ names : List String, names.Nodup ∧ names.length = context.size ∧
        ∀ name, name ∈ names ↔ ∃ value, Binds parameters values name value := by
  intro context
  refine ⟨fun _ _ => get?_parameterContext_iff, context.bindings.entries.map Prod.fst,
    context.nodup_names, List.length_map _, ?_⟩
  intro name
  rw [context.mem_names_iff]
  exact exists_congr fun _ => get?_parameterContext_iff

example :
    (parameterContext [⟨"owner", 0⟩, ⟨"0", 1⟩, ⟨"owner", 7⟩]
      [.string "ann", .string "bob"]).bindings.entries =
        [("0", .string "bob"), ("1", .string "bob"), ("owner", .string "ann")] := rfl

end KeyedQuery
