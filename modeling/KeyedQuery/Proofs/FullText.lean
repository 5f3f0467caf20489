import KeyedQuery.Explanation
import KeyedQuery.Proofs.Leaves

/-!
What the text of a qualifier leaves out.

The full text of a leaf has its field, its operator and each of its operands, and that of a group
the full texts of its members. The text that explanations show is the full text of what is visible:
a second operand that stands alone is not. So the text is full exactly where no leaf has such an
operand, and is otherwise shorter.
-/

set_option autoImplicit false

namespace KeyedQuery

/-! ### Full texts -/

def Condition.fullText (condition : Condition) : String :=
  String.intercalate " " (condition.field.getD "" :: condition.operator.name ::
    condition.operands.map Operand.text)

/-- The condition without a second operand that stands alone. -/
def Condition.visible (condition : Condition) : Condition :=
  match condition.value1 with
  | some _ => condition
  | none => { condition with value2 := none }

/-- The length of a second operand that stands alone, with the space before it. -/
def Condition.hiddenLength (condition : Condition) : Nat :=
  match condition.value1, condition.value2 with
  | none, some second => second.text.length + 1
  | _, _ => 0

namespace Qualifier

mutual

/-- The text with every condition and every operand. -/
def fullText : Qualifier → String
  | .leaf condition => condition.fullText
  | .group head nested =>
      "(" ++ String.intercalate (" " ++ head.operator.name ++ " ") (fullTexts nested) ++ ")"

def fullTexts : List Qualifier → List String
  | [] => []
  | qualifier :: rest => fullText qualifier :: fullTexts rest

end

mutual

/-- The tree without second operands that stand alone. -/
def visible : Qualifier → Qualifier
  | .leaf condition => .leaf condition.visible
  | .group head nested => .group head (visibleAll nested)

def visibleAll : List Qualifier → List Qualifier
  | [] => []
  | qualifier :: rest => visible qualifier :: visibleAll rest

end

mutual

/-- The length of all that is not visible. -/
def hiddenLength : Qualifier → Nat
  | .leaf condition => condition.hiddenLength
  | .group _ nested => hiddenLengthOf nested

def hiddenLengthOf : List Qualifier → Nat
  | [] => 0
  | qualifier :: rest => hiddenLength qualifier + hiddenLengthOf rest

end

end Qualifier

/-! ### Leaves -/

theorem Condition.text_eq_fullText_visible (condition : Condition) :
    condition.text = condition.visible.fullText := by
  obtain ⟨field, operator, first, second⟩ := condition
  cases first with
  | none =>
      cases second <;>
        simp [text, visible, fullText, operands, String.intercalate_cons_cons]
  | some first =>
      cases second <;>
        simp [text, visible, fullText, operands, String.intercalate_cons_cons, String.append_assoc]

theorem Condition.visible_eq_self {condition : Condition} (inOrder : condition.InOrder) :
    condition.visible = condition := by
  obtain ⟨field, operator, first, second⟩ := condition
  cases first with
  | none =>
      have noSecond : second = none := inOrder rfl
      rw [noSecond]
      rfl
  | some first => rfl

theorem Condition.text_eq_fullText {condition : Condition} (inOrder : condition.InOrder) :
    condition.text = condition.fullText := by
  rw [text_eq_fullText_visible, visible_eq_self inOrder]

theorem Condition.length_fullText (condition : Condition) :
    condition.fullText.length = condition.text.length + condition.hiddenLength := by
  obtain ⟨field, operator, first, second⟩ := condition
  have space : " ".length = 1 := rfl
  cases first <;> cases second <;>
    simp [text, fullText, operands, hiddenLength, String.intercalate_cons_cons, space] <;> omega

theorem Condition.hiddenLength_eq_zero_iff (condition : Condition) :
    condition.hiddenLength = 0 ↔ condition.InOrder := by
  obtain ⟨field, operator, first, second⟩ := condition
  cases first <;> cases second <;> simp [hiddenLength, InOrder]

/-! ### Trees -/

namespace Qualifier

mutual

theorem text_eq_fullText_visible (qualifier : Qualifier) :
    qualifier.text = qualifier.visible.fullText := by
  cases qualifier with
  | leaf condition => rw [text, visible, fullText, condition.text_eq_fullText_visible]
  | group head nested => rw [text, visible, fullText, texts_eq_fullTexts_visibleAll nested]

theorem texts_eq_fullTexts_visibleAll (qualifiers : List Qualifier) :
    texts qualifiers = fullTexts (visibleAll qualifiers) := by
  cases qualifiers with
  | nil => rfl
  | cons qualifier rest =>
      rw [texts, visibleAll, fullTexts, text_eq_fullText_visible qualifier,
        texts_eq_fullTexts_visibleAll rest]

end

mutual

theorem visible_eq_self (qualifier : Qualifier)
    (inOrder : ∀ condition ∈ qualifier.leaves, condition.InOrder) :
    qualifier.visible = qualifier := by
  cases qualifier with
  | leaf condition =>
      rw [leaves_leaf, List.forall_mem_singleton] at inOrder
      rw [visible, Condition.visible_eq_self inOrder]
  | group head nested =>
      rw [leaves] at inOrder
      rw [visible, visibleAll_eq_self nested inOrder]

theorem visibleAll_eq_self (qualifiers : List Qualifier)
    (inOrder : ∀ condition ∈ leavesOf qualifiers, condition.InOrder) :
    visibleAll qualifiers = qualifiers := by
  cases qualifiers with
  | nil => rfl
  | cons qualifier rest =>
      rw [leavesOf, List.forall_mem_append] at inOrder
      rw [visibleAll, visible_eq_self qualifier inOrder.1, visibleAll_eq_self rest inOrder.2]

end

mutual

theorem length_fullText (qualifier : Qualifier) :
    qualifier.fullText.length = qualifier.text.length + qualifier.hiddenLength := by
  cases qualifier with
  | leaf condition => rw [text, fullText, hiddenLength, condition.length_fullText]
  | group head nested =>
      have inside := length_intercalate_fullTexts (" " ++ head.operator.name ++ " ") nested
      rw [text, fullText, hiddenLength]
      simp only [String.length_append, inside]
      omega

theorem length_intercalate_fullTexts (separator : String) (qualifiers : List Qualifier) :
    (String.intercalate separator (fullTexts qualifiers)).length =
      (String.intercalate separator (texts qualifiers)).length + hiddenLengthOf qualifiers := by
  match qualifiers with
  | [] => rfl
  | [only] =>
      have alone := length_fullText only
      simp only [fullTexts, texts, hiddenLengthOf, String.intercalate_singleton]
      omega
  | first :: second :: rest =>
      have ofFirst := length_fullText first
      have ofOthers := length_intercalate_fullTexts separator (second :: rest)
      simp only [fullTexts, texts, hiddenLengthOf, String.intercalate_cons_cons,
        String.length_append] at ofOthers ⊢
      omega

end

mutual

theorem hiddenLength_eq_zero_iff (qualifier : Qualifier) :
    qualifier.hiddenLength = 0 ↔ ∀ condition ∈ qualifier.leaves, condition.InOrder := by
  cases qualifier with
  | leaf condition =>
      rw [hiddenLength, leaves_leaf, List.forall_mem_singleton, condition.hiddenLength_eq_zero_iff]
  | group head nested => rw [hiddenLength, leaves, hiddenLengthOf_eq_zero_iff nested]

theorem hiddenLengthOf_eq_zero_iff (qualifiers : List Qualifier) :
    hiddenLengthOf qualifiers = 0 ↔ ∀ condition ∈ leavesOf qualifiers, condition.InOrder := by
  cases qualifiers with
  | nil => exact iff_of_true rfl fun _ member => nomatch member
  | cons qualifier rest =>
      rw [hiddenLengthOf, leavesOf, List.forall_mem_append, Nat.add_eq_zero_iff,
        hiddenLength_eq_zero_iff qualifier, hiddenLengthOf_eq_zero_iff rest]

end

theorem text_eq_fullText_iff (qualifier : Qualifier) :
    qualifier.text = qualifier.fullText ↔
      ∀ condition ∈ qualifier.leaves, condition.InOrder := by
  constructor
  · intro same
    have lengths := qualifier.length_fullText
    rw [same] at lengths
    apply qualifier.hiddenLength_eq_zero_iff.mp
    omega
  · intro inOrder
    rw [text_eq_fullText_visible, qualifier.visible_eq_self inOrder]

end Qualifier

/-! ### Explanations -/

theorem Criteria.leaves_root (criteria : Criteria) :
    criteria.root.leaves = criteria.qualifierList.flatMap Qualifier.leaves := by
  obtain ⟨root⟩ := criteria
  cases root with
  | leaf condition =>
      change (Qualifier.leaf condition).leaves = [Qualifier.leaf condition].flatMap Qualifier.leaves
      rw [List.flatMap_singleton]
  | group head nested =>
      change (Qualifier.group head nested).leaves = nested.flatMap Qualifier.leaves
      rw [Qualifier.leaves, Qualifier.leavesOf_eq_flatMap]

/-- A text is the full text of what is visible, and all is visible exactly where no leaf has a
second operand without a first. An explanation has one such text for each qualifier at the top
level. -/
theorem text_shows_all_iff (qualifier : Qualifier) (plan : Plan) (path : AccessPath)
    (target : RecordType) :
    (qualifier.text = qualifier.visible.fullText ∧
      (qualifier.text = qualifier.fullText ↔
        ∀ condition ∈ qualifier.leaves, condition.value1 = none → condition.value2 = none)) ∧
    (plan.explain path target).qualifiers =
      plan.criteria.qualifierList.map (fun member => member.visible.fullText) ∧
    ((plan.explain path target).qualifiers = plan.criteria.qualifierList.map Qualifier.fullText ↔
      ∀ condition ∈ plan.criteria.root.leaves,
        condition.value1 = none → condition.value2 = none) := by
  refine ⟨⟨qualifier.text_eq_fullText_visible, qualifier.text_eq_fullText_iff⟩, ?_⟩
  change plan.criteria.qualifierList.map Qualifier.text = _ ∧
    (plan.criteria.qualifierList.map Qualifier.text = _ ↔ _)
  rw [List.map_inj_left, List.map_inj_left, Criteria.leaves_root]
  constructor
  · exact fun member _ => member.text_eq_fullText_visible
  · simp only [Qualifier.text_eq_fullText_iff, Condition.InOrder, List.forall_mem_flatMap]

/-- Of a range with its upper end alone, the end is not shown. -/
theorem lone_second_operand_not_shown :
    ¬ ∀ (plan : Plan) (path : AccessPath) (target : RecordType),
      (plan.explain path target).qualifiers =
        plan.criteria.qualifierList.map Qualifier.fullText := by
  intro claim
  let condition : Condition := ⟨some "age", .between, none, some (.literal (.ofNat 30))⟩
  have shown := claim (.ofCriteria ⟨.leaf condition⟩) .scan ⟨"Person"⟩
  have same : (["age between"] : List String) = ["age between 30"] := shown
  exact absurd same (by decide)

end KeyedQuery
