import KeyedQuery.Proofs.NumeralText
import KeyedQuery.Proofs.ReferenceForm
import KeyedQuery.Proofs.VariableBinding

/-!
References to values by their position.

A reference `?i` is resolved to what the decimal spelling of `i` is bound to. A parameter may be
declared under such a spelling, and it is bound behind the positions. So the reference reaches the
value at its position unless the last parameter of that name stands for another value.
-/

set_option autoImplicit false

namespace KeyedQuery

/-! ### From a reference to its name -/

theorem isBlank_of_isDigit {character : Char} (digit : Json.isDigit character = true) :
    Text.isBlank character = false := by
  unfold Json.isDigit at digit
  obtain ⟨least, greatest⟩ := Bool.and_eq_true_iff.mp digit
  have atLeast : 48 ≤ character.toNat := of_decide_eq_true least
  have atMost : character.toNat ≤ 57 := of_decide_eq_true greatest
  apply Bool.eq_false_iff.mpr
  intro blank
  simp only [Text.isBlank, Text.blankRanges, List.any_cons, List.any_nil, Bool.or_eq_true,
    Bool.and_eq_true, decide_eq_true_eq, Bool.false_eq_true, or_false] at blank
  omega

/-- No digit is a blank, so nothing of the spelling is trimmed. -/
theorem isEnded_repr (position : Nat) : IsEnded (Nat.repr position).toList := by
  intro character isLast
  rw [Nat.repr_eq_ofList_toDigits, String.toList_ofList] at isLast
  exact isBlank_of_isDigit (Json.isDigit_of_mem_toDigits (List.mem_of_getLast? isLast))

theorem EvaluationContext.resolve_position (context : EvaluationContext) (position : Nat) :
    context.resolve (.expression ("?" ++ Nat.repr position)) =
      context.get? (Nat.repr position) := by
  apply context.resolve_of_refersTo
  have written : ("?" ++ Nat.repr position).toList =
      [] ++ '?' :: (Nat.repr position).toList ++ [] := by
    rw [String.toList_append, List.nil_append, List.append_nil]
    rfl
  have noBlank : ∀ character ∈ ([] : List Char), Text.isBlank character = true :=
    List.forall_mem_nil _
  exact ⟨isEnded_repr position, [], '?', [], written, Or.inr rfl, noBlank, noBlank⟩

/-! ### Positions under parameters of any name -/

/-- A position is reached exactly where no parameter stands for another value under its spelling:
where there are such parameters, the last of them decides. -/
theorem position_reached_iff (name : String) (entity : RecordType) (names : List String)
    (values : List Json) {position : Nat} (inRange : position < values.length) :
    let method := names.foldl Method.withParameter (Method.declare name entity)
    let context := parameterContext method.parameters values
    context.resolve (.expression ("?" ++ Nat.repr position)) = some values[position] ↔
      ∀ parameter : Parameter,
        parameter.LastReaches method.parameters values (Nat.repr position) →
          values[parameter.index.toNat]? = some values[position] := by
  intro method context
  rw [context.resolve_position]
  constructor
  · intro reached parameter last
    have held := List.getElem?_eq_getElem last.reaches.inRange
    rw [held, ← get?_parameterContext_of_binds (.named last held)]
    exact reached
  · intro agreed
    apply get?_parameterContext_of_binds
    rcases Parameter.exists_lastReaches_or_none method.parameters values (Nat.repr position) with
      ⟨parameter, last⟩ | unnamed
    · exact .named last (agreed parameter last)
    · exact .positioned unnamed rfl (List.getElem?_eq_getElem inRange)

/-- Two parameters are called by the spelling of the second position. The later one stands there. -/
theorem later_namesake_reached :
    let values : List Json := [.string "ann", .string "bob"]
    let method := ["1", "1"].foldl Method.withParameter (Method.declare "find" ⟨"Document"⟩)
    1 < values.length ∧
      (parameterContext method.parameters values).resolve (.expression ("?" ++ Nat.repr 1)) =
        some (.string "bob") := by
  intro values method
  refine ⟨by decide, (position_reached_iff "find" ⟨"Document"⟩ ["1", "1"] values
    (by decide : 1 < values.length)).mpr ?_⟩
  intro parameter last
  have declared : method.parameters = [⟨"1", 0⟩, ⟨"1", 1⟩] := rfl
  obtain ⟨before, after, split, notLater⟩ := last.last
  rw [declared] at split
  cases before with
  | nil =>
      obtain ⟨_, rfl⟩ := List.cons.inj split
      exact absurd ⟨rfl, by decide⟩ (notLater _ List.mem_cons_self)
  | cons first others =>
      have isLater : parameter ∈ [⟨"1", 1⟩] := by
        rw [(List.cons.inj split).2]
        exact List.mem_append_right others List.mem_cons_self
      rw [List.mem_singleton.mp isLater]
      rfl

/-- The first parameter is called by the spelling of the second position, and hides it. -/
theorem numbered_parameter_hides_position :
    ¬ ∀ (name : String) (entity : RecordType) (names : List String) (values : List Json)
        (position : Nat) (inRange : position < values.length),
      let method := names.foldl Method.withParameter (Method.declare name entity)
      (parameterContext method.parameters values).resolve
        (.expression ("?" ++ Nat.repr position)) = some values[position] := by
  intro claim
  let values : List Json := [.string "ann", .string "bob"]
  have reached := claim "find" ⟨"Document"⟩ ["1"] values 1 (by decide)
  have found : (some (.string "ann") : Option Json) = some (.string "bob") := reached
  exact absurd (Json.string.inj (Option.some.inj found)) (by decide)

end KeyedQuery
