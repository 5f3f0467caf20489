import KeyedQuery.Proofs.ArgumentBlocks
import KeyedQuery.Proofs.Satisfaction

/-!
What a bound intent means.

Binding collapses groups of one and leaves out branches without parts. None of that can be seen in
what the criteria say: they hold when all parts of some branch hold, each over its own block of
arguments, and without any parts they hold of everything.
-/

set_option autoImplicit false

namespace KeyedQuery

/-- All parts of some branch that has parts hold over their own blocks of the arguments. -/
def Intent.SomeBranchHolds (intent : Intent) (arguments : List Json) (reading : Reading) : Prop :=
  ∃ before branch after, intent.tree = before ++ branch :: after ∧ branch.parts ≠ [] ∧
    ∀ earlier part later, branch.parts = earlier ++ part :: later →
      reading.leaf (part.conditionOver (argumentBlock arguments
        (Branch.totalArity before + Part.totalArity earlier) part.arity)) = true

variable (reading : Reading) (qualifiers : List Qualifier)

theorem holds_collapse_and :
    (collapse .and qualifiers).holds reading = qualifiers.all (Qualifier.holds reading) := by
  unfold collapse
  split
  · simp
  · exact Qualifier.holds_group_and reading rfl _

theorem holds_collapse_or :
    (collapse .or qualifiers).holds reading = qualifiers.any (Qualifier.holds reading) := by
  unfold collapse
  split
  · simp
  · exact Qualifier.holds_group_or reading rfl _

/-- Without branches the root is the empty conjunction, not the empty disjunction, so it holds. -/
theorem Intent.holds_bindRoot_iff (intent : Intent) (arguments : List Json) :
    (intent.bindRoot arguments).holds reading = true ↔
      bindBranches intent.tree arguments = [] ∨
        ∃ qualifier ∈ bindBranches intent.tree arguments, qualifier.holds reading = true := by
  unfold bindRoot
  split
  · rename_i noBranch
    rw [noBranch]
    exact iff_of_true (Qualifier.holds_group_and reading rfl []) (Or.inl rfl)
  · rename_i someBranch
    rw [holds_collapse_or, List.any_eq_true]
    exact ⟨Or.inr, fun either => either.resolve_left someBranch⟩

theorem holds_bound_branch_iff (parts : List Part) (arguments : List Json) (start : Nat) :
    (collapse .and (bindParts parts (arguments.drop start))).holds reading = true ↔
      ∀ earlier part later, parts = earlier ++ part :: later →
        reading.leaf (part.conditionOver (argumentBlock arguments
          (start + Part.totalArity earlier) part.arity)) = true := by
  rw [holds_collapse_and, List.all_eq_true]
  constructor
  · intro all earlier part later isSplit
    have bound := all _ ((mem_bindParts_iff parts _ _).mpr ⟨earlier, part, later, isSplit, rfl⟩)
    rwa [List.drop_drop, Part.bind_drop, Qualifier.holds_leaf] at bound
  · intro all qualifier member
    obtain ⟨earlier, part, later, isSplit, isPart⟩ := (mem_bindParts_iff parts _ _).mp member
    rw [isPart, List.drop_drop, Part.bind_drop, Qualifier.holds_leaf]
    exact all earlier part later isSplit

theorem some_bound_branch_holds_iff (intent : Intent) (arguments : List Json) :
    (∃ qualifier ∈ bindBranches intent.tree arguments, qualifier.holds reading = true) ↔
      intent.SomeBranchHolds arguments reading := by
  constructor
  · rintro ⟨qualifier, member, holds⟩
    obtain ⟨before, branch, after, isSplit, filled, bound⟩ :=
      (mem_bindBranches_iff intent.tree arguments qualifier).mp member
    rw [bound, holds_bound_branch_iff] at holds
    exact ⟨before, branch, after, isSplit, filled, holds⟩
  · rintro ⟨before, branch, after, isSplit, filled, hold⟩
    refine ⟨_, (mem_bindBranches_iff intent.tree arguments _).mpr
      ⟨before, branch, after, isSplit, filled, rfl⟩, ?_⟩
    exact (holds_bound_branch_iff reading _ _ _).mpr hold

/-- The criteria of an intent hold exactly when it has no parts at all or all parts of one of its
branches hold. The blocks of arguments are laid out over the parts of all branches. -/
theorem bound_intent_holds_iff (intent : Intent) (arguments : Arguments) :
    (intent.bind arguments).criteria.root.holds reading = true ↔
      (∀ branch ∈ intent.tree, branch.parts = []) ∨
        intent.SomeBranchHolds arguments.values reading := by
  change (intent.bindRoot arguments.values).holds reading = true ↔ _
  rw [intent.holds_bindRoot_iff, bindBranches_eq_nil_iff, some_bound_branch_holds_iff]

-- The empty branch takes no argument, and the second branch reads behind the range of the first.
example :
    let intent := Intent.ofTree [⟨[⟨"age", .between⟩]⟩, ⟨[]⟩, ⟨[⟨"name", .equal⟩]⟩]
    let arguments := Arguments.ofValues [.ofNat 18, .ofNat 30, .string "Ann"]
    (intent.bind arguments).criteria.root.holds
      ⟨fun condition => condition.value1 == some (.literal (.string "Ann")), fun _ _ => false⟩ =
        true := by decide

end KeyedQuery
