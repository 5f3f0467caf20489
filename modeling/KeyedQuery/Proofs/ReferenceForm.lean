import KeyedQuery.EvaluationContext

/-!
Expressions that refer to a variable.

An expression refers to a name if it is the name behind one marker, with nothing but blanks around
the two. One marker is taken off, and blanks only outside: what is left is the name, which may begin
with a blank or with a marker of its own, but does not end with a blank. So each expression refers
to one name at most, neither the blanks nor the choice of the marker reach the variable that is
looked up, and an expression that begins with no marker behind its blanks is never resolved.
-/

set_option autoImplicit false

namespace KeyedQuery

def IsMarker (character : Char) : Prop :=
  character = '#' ∨ character = '?'

theorem IsMarker.isBlank {marker : Char} (isMarker : IsMarker marker) :
    Text.isBlank marker = false := by
  rcases isMarker with rfl | rfl <;> decide

/-- The name does not end with a blank. -/
def IsEnded (name : List Char) : Prop :=
  ∀ character, name.getLast? = some character → Text.isBlank character = false

/-- The expression is the name behind a marker, among blanks. -/
structure RefersTo (source name : String) : Prop where
  ended : IsEnded name.toList
  written : ∃ before marker after, source.toList = before ++ marker :: name.toList ++ after ∧
    IsMarker marker ∧ (∀ character ∈ before, Text.isBlank character = true) ∧
      ∀ character ∈ after, Text.isBlank character = true

/-- The marker is no blank, so only the end of the name decides whether there is more to trim. -/
theorem isTrimmed_marker_iff {marker : Char} (isMarker : IsMarker marker) (name : List Char) :
    Text.IsTrimmed (marker :: name) ↔ IsEnded name := by
  constructor
  · intro trimmed character isLast
    apply trimmed.last
    rw [List.getLast?_cons, isLast]
    rfl
  · intro ended
    constructor
    · intro character isFirst
      cases isFirst
      exact isMarker.isBlank
    · intro character isLast
      rw [List.getLast?_cons] at isLast
      cases isEnd : name.getLast? with
      | none =>
          rw [isEnd] at isLast
          cases isLast
          exact isMarker.isBlank
      | some last =>
          rw [isEnd] at isLast
          cases isLast
          exact ended last isEnd

namespace EvaluationContext

theorem referenceName?_eq_some_iff_trimChars (source name : String) :
    referenceName? source = some name ↔
      ∃ marker, IsMarker marker ∧ Text.trimChars source.toList = marker :: name.toList := by
  unfold referenceName?
  split
  · rename_i first rest isTrimmed
    rw [Option.ite_none_right_eq_some, isTrimmed]
    constructor
    · intro both
      obtain ⟨isMarker, isName⟩ := both
      refine ⟨first, isMarker, ?_⟩
      rw [← Option.some.inj isName, String.toList_ofList]
    · intro marked
      obtain ⟨marker, isMarker, same⟩ := marked
      obtain ⟨sameMarker, sameName⟩ := List.cons.inj same
      rw [sameMarker, sameName, String.ofList_toList]
      exact ⟨isMarker, rfl⟩
  · rename_i isNothing
    apply iff_of_false (by simp)
    intro marked
    obtain ⟨marker, _, same⟩ := marked
    rw [isNothing] at same
    cases same

/-- A name is found in exactly the expressions that refer to it. -/
theorem referenceName?_eq_some_iff (source name : String) :
    referenceName? source = some name ↔ RefersTo source name := by
  rw [referenceName?_eq_some_iff_trimChars]
  constructor
  · intro found
    obtain ⟨marker, isMarker, trimmed⟩ := found
    obtain ⟨isTrimmed, before, after, written, beforeBlank, afterBlank⟩ :=
      (Text.trimChars_eq_iff _ _).mp trimmed
    exact ⟨(isTrimmed_marker_iff isMarker _).mp isTrimmed,
      before, marker, after, written, isMarker, beforeBlank, afterBlank⟩
  · intro refers
    obtain ⟨before, marker, after, written, isMarker, beforeBlank, afterBlank⟩ := refers.written
    refine ⟨marker, isMarker, (Text.trimChars_eq_iff _ _).mpr ?_⟩
    exact ⟨(isTrimmed_marker_iff isMarker _).mpr refers.ended,
      before, after, written, beforeBlank, afterBlank⟩

theorem resolve_of_refersTo (context : EvaluationContext) {source name : String}
    (refers : RefersTo source name) :
    context.resolve (.expression source) = context.get? name := by
  rw [resolve, (referenceName?_eq_some_iff source name).mpr refers]
  rfl

/-- An expression that refers to no name is not resolved. -/
theorem resolve_eq_none (context : EvaluationContext) {source : String}
    (noReference : ∀ name, ¬ RefersTo source name) :
    context.resolve (.expression source) = none := by
  have notFound : referenceName? source = none := by
    apply Option.eq_none_iff_forall_ne_some.mpr
    intro name found
    exact noReference name ((referenceName?_eq_some_iff source name).mp found)
  rw [resolve, notFound]
  rfl

end EvaluationContext

theorem refersTo_padded {before mark name after : String} {marker : Char}
    (isMark : mark.toList = [marker]) (isMarker : IsMarker marker) (ended : IsEnded name.toList)
    (beforeBlank : ∀ character ∈ before.toList, Text.isBlank character = true)
    (afterBlank : ∀ character ∈ after.toList, Text.isBlank character = true) :
    RefersTo (before ++ mark ++ name ++ after) name := by
  refine ⟨ended, before.toList, marker, after.toList, ?_, isMarker, beforeBlank, afterBlank⟩
  rw [String.toList_append, String.toList_append, String.toList_append, isMark,
    List.append_assoc before.toList, List.singleton_append]

/-- The trimmed text of an expression that refers to a name begins with a marker. -/
theorem RefersTo.exists_trim {source name : String} (refers : RefersTo source name) :
    ∃ marker, (Text.trim source).toList.head? = some marker ∧ IsMarker marker := by
  obtain ⟨marker, isMarker, trimmed⟩ :=
    (EvaluationContext.referenceName?_eq_some_iff_trimChars source name).mp
      ((EvaluationContext.referenceName?_eq_some_iff source name).mpr refers)
  refine ⟨marker, ?_, isMarker⟩
  unfold Text.trim
  rw [String.toList_ofList, trimmed]
  rfl

/-- Whatever blanks stand around it, a name behind either marker is resolved to the variable of that
very name. An expression that begins with no marker, once it is trimmed, is not resolved. -/
theorem padded_reference_reads_name (context : EvaluationContext) :
    (∀ before name after : String,
      (∀ character ∈ before.toList, Text.isBlank character = true) →
      (∀ character ∈ after.toList, Text.isBlank character = true) →
      (∀ character, name.toList.getLast? = some character → Text.isBlank character = false) →
        context.resolve (.expression (before ++ "#" ++ name ++ after)) = context.get? name ∧
        context.resolve (.expression (before ++ "?" ++ name ++ after)) = context.get? name) ∧
    ∀ source : String,
      (Text.trim source).toList.head? ≠ some '#' → (Text.trim source).toList.head? ≠ some '?' →
        context.resolve (.expression source) = none := by
  constructor
  · intro before name after beforeBlank afterBlank ended
    constructor
    · exact context.resolve_of_refersTo
        (refersTo_padded rfl (Or.inl rfl) ended beforeBlank afterBlank)
    · exact context.resolve_of_refersTo
        (refersTo_padded rfl (Or.inr rfl) ended beforeBlank afterBlank)
  · intro source noNumberSign noQuestionMark
    apply context.resolve_eq_none
    intro name refers
    obtain ⟨marker, isFirst, isMarker⟩ := refers.exists_trim
    rcases isMarker with rfl | rfl
    · exact noNumberSign isFirst
    · exact noQuestionMark isFirst

/-- The name begins with a blank and a marker, and both belong to it: the variable without them is
bound to another value. -/
theorem inner_blank_and_marker_belong_to_name :
    let context := (EvaluationContext.empty.bind "owner" (.string "ann")).bind " #owner"
      (.string "bob")
    (∀ character ∈ "\t".toList, Text.isBlank character = true) ∧
    (∀ character ∈ "\u00a0".toList, Text.isBlank character = true) ∧
    (∀ character, " #owner".toList.getLast? = some character →
      Text.isBlank character = false) ∧
    context.resolve (.expression ("\t" ++ "#" ++ " #owner" ++ "\u00a0")) =
      some (.string "bob") := by
  intro context
  have beforeBlank : ∀ character ∈ "\t".toList, Text.isBlank character = true := by
    change ∀ character ∈ ['\t'], Text.isBlank character = true
    exact List.forall_mem_singleton.mpr (by decide)
  have afterBlank : ∀ character ∈ "\u00a0".toList, Text.isBlank character = true := by
    change ∀ character ∈ ['\u00a0'], Text.isBlank character = true
    exact List.forall_mem_singleton.mpr (by decide)
  have ended : ∀ character, " #owner".toList.getLast? = some character →
      Text.isBlank character = false := by
    intro character isLast
    cases isLast
    decide
  have bound : context.get? " #owner" = some (.string "bob") := rfl
  refine ⟨beforeBlank, afterBlank, ended, ?_⟩
  rw [((padded_reference_reads_name context).1 _ _ _ beforeBlank afterBlank ended).1, bound]

end KeyedQuery
