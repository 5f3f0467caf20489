import KeyedQuery.BoundQuery
import KeyedQuery.Proofs.FullText
import KeyedQuery.Proofs.NormalForm
import KeyedQuery.Proofs.Spelling
import KeyedQuery.Proofs.ValueBoundary

/-!
Bound criteria can be told from how they are explained.

Nothing sets the values in an explanation off from the words around them, and a text among them may
hold any of those words. Still there is one way to read it: a field ends at the first space, the
operator says how many values follow, each value ends where its quotes are closed and a space or a
closing parenthesis follows, and only a group begins with an opening parenthesis.
-/

set_option autoImplicit false

namespace KeyedQuery

open Json (ClosesText Document IsPlainText)

theorem toList_intercalate_cons (separator first : String) (rest : List String) :
    (String.intercalate separator (first :: rest)).toList =
      first.toList ++ rest.flatMap fun text => separator.toList ++ text.toList := by
  induction rest generalizing first with
  | nil => rw [String.intercalate_singleton, List.flatMap_nil, List.append_nil]
  | cons second others ih =>
      rw [String.intercalate_cons_cons, String.toList_append, String.toList_append, ih,
        List.flatMap_cons, List.append_assoc, List.append_assoc]

/-- What stands before the first occurrence of an item is told from what stands behind it. -/
theorem append_inj_of_stop {Item : Type} {stop : Item} {left right leftRest rightRest : List Item}
    (leftFree : stop ∉ left) (rightFree : stop ∉ right)
    (same : left ++ stop :: leftRest = right ++ stop :: rightRest) :
    left = right ∧ leftRest = rightRest := by
  induction left generalizing right with
  | nil =>
      cases right with
      | nil => exact ⟨rfl, List.tail_eq_of_cons_eq same⟩
      | cons head tail =>
          have isHead : stop = head := List.head_eq_of_cons_eq same
          rw [isHead] at rightFree
          exact absurd List.mem_cons_self rightFree
  | cons first others ih =>
      cases right with
      | nil =>
          have isFirst : first = stop := List.head_eq_of_cons_eq same
          rw [isFirst] at leftFree
          exact absurd List.mem_cons_self leftFree
      | cons second further =>
          obtain ⟨sameFirst, sameOthers⟩ := List.cons.inj same
          obtain ⟨othersSame, restsSame⟩ := ih (fun member => leftFree (.tail first member))
            (fun member => rightFree (.tail second member)) sameOthers
          rw [sameFirst, othersSame]
          exact ⟨rfl, restsSame⟩

/-! ### Operators -/

theorem Operator.isPlainText_name (operator : Operator) : IsPlainText operator.name.toList := by
  have ofAll : ∀ operator ∈ all, IsPlainText operator.name.toList := by decide
  exact ofAll operator operator.mem_all

theorem Operator.eq_of_name_eq {left right : Operator} (same : left.name = right.name) :
    left = right := by
  have ofAll : ∀ left ∈ all, ∀ right ∈ all, left.name = right.name → left = right := by decide
  exact ofAll left left.mem_all right right.mem_all same

/-! ### Operands -/

/-- A value on one side and a value on the other are the same if their compact texts are. -/
def DeterminedByText (left right : List Operand) : Prop :=
  ∀ value other, .literal value ∈ left → .literal other ∈ right →
    value.compact = other.compact → value = other

theorem DeterminedByText.mono {left right leftPart rightPart : List Operand}
    (determined : DeterminedByText left right) (leftWithin : leftPart ⊆ left)
    (rightWithin : rightPart ⊆ right) : DeterminedByText leftPart rightPart :=
  fun value other leftMember rightMember =>
    determined value other (leftWithin leftMember) (rightWithin rightMember)

/-- Values that are read back from their compact texts are told by them. -/
theorem DeterminedByText.of_legible {left right : List Operand}
    (leftLegible : ∀ value, .literal value ∈ left → value.Legible Document.nestingLimit)
    (rightLegible : ∀ value, .literal value ∈ right → value.Legible Document.nestingLimit) :
    DeterminedByText left right := by
  intro value other leftMember rightMember sameText
  have valueLegible := leftLegible value leftMember
  have otherLegible := rightLegible other rightMember
  have sameDocument : some (Document.ofValue value) = some (.ofValue other) := by
    rw [← Json.ofText?_compact valueLegible, ← Json.ofText?_compact otherLegible, sameText]
  apply Option.some.inj
  rw [← (Document.spells_ofValue value valueLegible.canonical).value,
    ← (Document.spells_ofValue other otherLegible.canonical).value, Option.some.inj sameDocument]

/-- What stands behind the operator of a leaf. -/
def operandTail (operands : List Operand) : List Char :=
  operands.flatMap fun operand => ' ' :: operand.text.toList

theorem closesText_operandTail (operands : List Operand) {rest : List Char}
    (closes : ClosesText rest) : ClosesText (operandTail operands ++ rest) := by
  cases operands with
  | nil => exact closes
  | cons operand others => exact .space _

/-- As many values as are known to follow are read one after another. -/
theorem eq_of_operandTail_append {left right : List Operand} {leftRest rightRest : List Char}
    (sameLength : left.length = right.length)
    (leftBound : ∀ operand ∈ left, operand.isDeferred = false)
    (rightBound : ∀ operand ∈ right, operand.isDeferred = false)
    (determined : DeterminedByText left right)
    (leftCloses : ClosesText leftRest) (rightCloses : ClosesText rightRest)
    (same : operandTail left ++ leftRest = operandTail right ++ rightRest) :
    left = right ∧ leftRest = rightRest := by
  induction left generalizing right with
  | nil =>
      have empty := List.eq_nil_of_length_eq_zero sameLength.symm
      rw [empty] at same ⊢
      exact ⟨rfl, same⟩
  | cons first others ih =>
      match right, sameLength with
      | second :: further, sameLength =>
          rw [List.forall_mem_cons] at leftBound rightBound
          match first, second, leftBound.1, rightBound.1 with
          | .literal value, .literal other, _, _ =>
              have texts : value.compact.toList ++ (operandTail others ++ leftRest) =
                  other.compact.toList ++ (operandTail further ++ rightRest) := by
                unfold operandTail at same
                rw [List.flatMap_cons, List.flatMap_cons, List.append_assoc,
                  List.append_assoc] at same
                exact List.tail_eq_of_cons_eq same
              obtain ⟨sameText, sameOthers⟩ := Json.append_inj_of_goesOver
                (Json.goesOver_compact value) (Json.goesOver_compact other)
                (closesText_operandTail others leftCloses)
                (closesText_operandTail further rightCloses) texts
              have sameValue : value = other :=
                determined value other List.mem_cons_self List.mem_cons_self
                  (String.toList_inj.mp sameText)
              have ofOthers := determined.mono (List.subset_cons_self _ others)
                (List.subset_cons_self _ further)
              obtain ⟨othersSame, restsSame⟩ := ih (Nat.succ.inj sameLength) leftBound.2
                rightBound.2 ofOthers sameOthers
              rw [sameValue, othersSame]
              exact ⟨rfl, restsSame⟩

/-! ### Leaves -/

/-- The field has no spaces and no parentheses, and the operands are values. -/
structure Condition.Plain (condition : Condition) : Prop where
  name : ∀ name ∈ condition.field, ' ' ∉ name.toList ∧ '(' ∉ name.toList ∧ ')' ∉ name.toList
  bound : ∀ operand ∈ condition.operands, operand.isDeferred = false

instance (condition : Condition) : Decidable condition.Plain :=
  decidable_of_iff (_ ∧ _) ⟨fun both => ⟨both.1, both.2⟩, fun plain => ⟨plain.name, plain.bound⟩⟩

/-- What the text of a condition is read off by: its form and its characters. -/
structure Condition.Readable (condition : Condition) : Prop
    extends condition.Filled, condition.Plain

namespace Condition

variable {condition left right : Condition}

theorem Plain.not_mem_field (plain : condition.Plain) :
    ' ' ∉ (condition.field.getD "").toList ∧ '(' ∉ (condition.field.getD "").toList := by
  cases present : condition.field with
  | none => decide
  | some name =>
      obtain ⟨noSpace, noParenthesis, _⟩ := plain.name name present
      exact ⟨noSpace, noParenthesis⟩

theorem toList_text (inOrder : condition.InOrder) :
    condition.text.toList = (condition.field.getD "").toList ++
      ' ' :: (condition.operator.name.toList ++ operandTail condition.operands) := by
  rw [text_eq_fullText inOrder]
  unfold fullText operandTail
  rw [toList_intercalate_cons, List.flatMap_cons, List.flatMap_map, List.append_assoc]
  rfl

theorem eq_of_text_append {leftRest rightRest : List Char}
    (leftReadable : left.Readable) (rightReadable : right.Readable)
    (determined : DeterminedByText left.operands right.operands)
    (leftCloses : ClosesText leftRest) (rightCloses : ClosesText rightRest)
    (same : left.text.toList ++ leftRest = right.text.toList ++ rightRest) :
    left = right ∧ leftRest = rightRest := by
  rw [toList_text leftReadable.inOrder, toList_text rightReadable.inOrder, List.append_assoc,
    List.append_assoc, List.cons_append, List.cons_append] at same
  obtain ⟨leftNoSpace, _⟩ := leftReadable.toPlain.not_mem_field
  obtain ⟨rightNoSpace, _⟩ := rightReadable.toPlain.not_mem_field
  obtain ⟨sameName, behindField⟩ := append_inj_of_stop leftNoSpace rightNoSpace same
  rw [List.append_assoc, List.append_assoc] at behindField
  obtain ⟨sameWord, behindOperator⟩ := Json.append_inj_of_goesOver
    (Json.goesOver_plain left.operator.isPlainText_name)
    (Json.goesOver_plain right.operator.isPlainText_name)
    (closesText_operandTail left.operands leftCloses)
    (closesText_operandTail right.operands rightCloses) behindField
  have sameOperator : left.operator = right.operator :=
    Operator.eq_of_name_eq (String.toList_inj.mp sameWord)
  have sameCount : left.operands.length = right.operands.length := by
    rw [leftReadable.count, rightReadable.count, sameOperator]
  obtain ⟨sameOperands, sameRest⟩ := eq_of_operandTail_append sameCount leftReadable.bound
    rightReadable.bound determined leftCloses rightCloses behindOperator
  have sameField : left.field = right.field := by
    obtain ⟨leftName, leftNamed⟩ := Option.isSome_iff_exists.mp leftReadable.named
    obtain ⟨rightName, rightNamed⟩ := Option.isSome_iff_exists.mp rightReadable.named
    rw [leftNamed, rightNamed] at sameName ⊢
    exact congrArg some (String.toList_inj.mp sameName)
  exact ⟨eq_of_operands_eq leftReadable.inOrder rightReadable.inOrder sameField sameOperator
    sameOperands, sameRest⟩

/-- No leaf begins as a group does. -/
theorem Readable.head_text_ne (readable : condition.Readable) :
    condition.text.toList.head? ≠ some '(' := by
  rw [toList_text readable.inOrder]
  cases characters : (condition.field.getD "").toList with
  | nil => exact fun first => absurd (Option.some.inj first) (by decide)
  | cons head tail =>
      have noParenthesis := readable.toPlain.not_mem_field.2
      intro first
      rw [characters, Option.some.inj first] at noParenthesis
      exact noParenthesis List.mem_cons_self

end Condition

/-! ### Clauses -/

/-- What stands behind the first leaf of a clause, with its closing parenthesis. -/
def conditionTail (conditions : List Condition) : List Char :=
  conditions.flatMap (fun condition => " and ".toList ++ condition.text.toList) ++ [')']

theorem conditionTail_cons (condition : Condition) (others : List Condition) :
    conditionTail (condition :: others) =
      " and ".toList ++ (condition.text.toList ++ conditionTail others) := by
  unfold conditionTail
  rw [List.flatMap_cons, List.append_assoc, List.append_assoc]

theorem closesText_conditionTail (conditions : List Condition) :
    ClosesText (conditionTail conditions) := by
  cases conditions with
  | nil => exact .parenthesis []
  | cons condition others =>
      rw [conditionTail_cons]
      exact .space _

/-- Leaves are read one after another up to the parenthesis that closes the clause. -/
theorem eq_of_conditionTail_eq {left right : List Condition}
    (leftReadable : ∀ condition ∈ left, condition.Readable)
    (rightReadable : ∀ condition ∈ right, condition.Readable)
    (determined : DeterminedByText (left.flatMap Condition.operands)
      (right.flatMap Condition.operands))
    (same : conditionTail left = conditionTail right) : left = right := by
  induction left generalizing right with
  | nil =>
      cases right with
      | nil => rfl
      | cons second further =>
          rw [conditionTail_cons] at same
          cases same
  | cons first others ih =>
      cases right with
      | nil =>
          rw [conditionTail_cons] at same
          cases same
      | cons second further =>
          rw [List.forall_mem_cons] at leftReadable rightReadable
          rw [List.flatMap_cons, List.flatMap_cons] at determined
          rw [conditionTail_cons, conditionTail_cons] at same
          obtain ⟨sameFirst, sameTail⟩ := Condition.eq_of_text_append leftReadable.1 rightReadable.1
            (determined.mono (List.subset_append_left _ _) (List.subset_append_left _ _))
            (closesText_conditionTail others) (closesText_conditionTail further)
            (List.append_cancel_left same)
          have sameOthers := ih leftReadable.2 rightReadable.2
            (determined.mono (List.subset_append_right _ _) (List.subset_append_right _ _)) sameTail
          rw [sameFirst, sameOthers]

namespace Qualifier

theorem leaves_group_map_leaf (head : Condition) (conditions : List Condition) :
    (group head (conditions.map .leaf)).leaves = conditions := by
  rw [leaves, leavesOf_eq_flatMap, List.flatMap_map]
  simp only [leaves_leaf, List.flatMap_singleton']

theorem operands_group_map_leaf (head : Condition) (conditions : List Condition) :
    (group head (conditions.map .leaf)).operands = conditions.flatMap Condition.operands := by
  rw [operands, leaves_group_map_leaf]

theorem texts_map_leaf (conditions : List Condition) :
    texts (conditions.map .leaf) = conditions.map Condition.text := by
  induction conditions with
  | nil => rfl
  | cons condition others ih => rw [List.map_cons, List.map_cons, texts, text, ih]

theorem toList_text_allOf (first : Condition) (others : List Condition) :
    (group ⟨none, .and, none, none⟩ ((first :: others).map .leaf)).text.toList =
      '(' :: (first.text.toList ++ conditionTail others) := by
  rw [text, texts_map_leaf, List.map_cons, String.toList_append, String.toList_append,
    toList_intercalate_cons, List.flatMap_map]
  unfold conditionTail
  simp [Operator.name]

theorem text_leaf_ne_text_group {condition : Condition} (readable : condition.Readable)
    (head : Condition) (nested : List Qualifier) :
    (leaf condition).text ≠ (group head nested).text := by
  intro same
  have opens : (group head nested).text.toList.head? = some '(' := by
    rw [text, String.toList_append, String.toList_append]
    rfl
  rw [← same, text] at opens
  exact readable.head_text_ne opens

theorem eq_of_text_allOf_eq {left right : List Condition}
    (leftPresent : left ≠ []) (rightPresent : right ≠ [])
    (leftReadable : ∀ condition ∈ left, condition.Readable)
    (rightReadable : ∀ condition ∈ right, condition.Readable)
    (determined : DeterminedByText (left.flatMap Condition.operands)
      (right.flatMap Condition.operands))
    (same : (group ⟨none, .and, none, none⟩ (left.map .leaf)).text =
      (group ⟨none, .and, none, none⟩ (right.map .leaf)).text) : left = right := by
  match left, right, leftPresent, rightPresent with
  | first :: others, second :: further, _, _ =>
      have sameList := congrArg String.toList same
      rw [toList_text_allOf, toList_text_allOf] at sameList
      have sameTail : conditionTail (first :: others) = conditionTail (second :: further) := by
        rw [conditionTail_cons, conditionTail_cons, List.tail_eq_of_cons_eq sameList]
      exact eq_of_conditionTail_eq leftReadable rightReadable determined sameTail

theorem IsClause.eq_of_text_eq {left right : Qualifier} (leftClause : left.IsClause)
    (rightClause : right.IsClause) (leftPlain : ∀ condition ∈ left.leaves, condition.Plain)
    (rightPlain : ∀ condition ∈ right.leaves, condition.Plain)
    (determined : DeterminedByText left.operands right.operands)
    (same : left.text = right.text) : left = right := by
  cases leftClause with
  | @leaf leftCondition leftFilled =>
      rw [leaves_leaf, List.forall_mem_singleton] at leftPlain
      cases rightClause with
      | @leaf rightCondition rightFilled =>
          rw [leaves_leaf, List.forall_mem_singleton] at rightPlain
          rw [operands_leaf, operands_leaf] at determined
          have sameList : leftCondition.text.toList ++ [] = rightCondition.text.toList ++ [] := by
            rw [text, text] at same
            rw [same]
          obtain ⟨sameCondition, _⟩ := Condition.eq_of_text_append ⟨leftFilled, leftPlain⟩
            ⟨rightFilled, rightPlain⟩ determined .nil .nil sameList
          rw [sameCondition]
      | allOf several filled =>
          exact absurd same (text_leaf_ne_text_group ⟨leftFilled, leftPlain⟩ _ _)
  | @allOf leftConditions leftSeveral leftFilled =>
      cases rightClause with
      | @leaf rightCondition rightFilled =>
          rw [leaves_leaf, List.forall_mem_singleton] at rightPlain
          exact absurd same.symm (text_leaf_ne_text_group ⟨rightFilled, rightPlain⟩ _ _)
      | @allOf rightConditions rightSeveral rightFilled =>
          rw [leaves_group_map_leaf] at leftPlain rightPlain
          rw [operands_group_map_leaf, operands_group_map_leaf] at determined
          have leftPresent : leftConditions ≠ [] := List.ne_nil_of_length_pos (by omega)
          have rightPresent : rightConditions ≠ [] := List.ne_nil_of_length_pos (by omega)
          rw [eq_of_text_allOf_eq leftPresent rightPresent
            (fun condition member => ⟨leftFilled condition member, leftPlain condition member⟩)
            (fun condition member => ⟨rightFilled condition member, rightPlain condition member⟩)
            determined same]

end Qualifier

/-! ### Criteria -/

theorem eq_of_map_eq {Item Image : Type} {image : Item → Image} {left right : List Item}
    (determined : ∀ item ∈ left, ∀ other ∈ right, image item = image other → item = other)
    (same : left.map image = right.map image) : left = right := by
  induction left generalizing right with
  | nil => exact (List.map_eq_nil_iff.mp same.symm).symm
  | cons first others ih =>
      cases right with
      | nil => cases same
      | cons second further =>
          obtain ⟨sameFirst, sameOthers⟩ := List.cons.inj same
          have firstSame : first = second :=
            determined first List.mem_cons_self second List.mem_cons_self sameFirst
          have othersSame : others = further :=
            ih (fun item member other otherMember =>
              determined item (.tail first member) other (.tail second otherMember)) sameOthers
          rw [firstSame, othersSame]

/-- A group at the root of a normal tree is told by its operator. -/
theorem Qualifier.IsNormal.head_eq {head : Condition} {nested : List Qualifier}
    (isNormal : (group head nested).IsNormal) : head = ⟨none, head.operator, none, none⟩ := by
  rcases isNormal.of_group with ⟨isAnd, _⟩ | isClause | ⟨isOr, _⟩
  · rw [isAnd]
  · rw [isClause.of_group.1]
  · rw [isOr]

namespace Criteria

variable {criteria left right : Criteria}

theorem areClauses (isNormal : criteria.root.IsNormal) :
    ∀ qualifier ∈ criteria.qualifierList, qualifier.IsClause := by
  obtain ⟨root⟩ := criteria
  cases root with
  | leaf condition =>
      cases isNormal with
      | clause isClause => exact List.forall_mem_singleton.mpr isClause
  | group head nested =>
      intro qualifier member
      change qualifier ∈ nested at member
      rcases isNormal.of_group with ⟨_, empty⟩ | isClause | ⟨_, _, areClauses⟩
      · rw [empty] at member
        cases member
      · obtain ⟨condition, isLeaf, filled⟩ := isClause.of_group.2.2 qualifier member
        rw [isLeaf]
        exact .leaf filled
      · exact areClauses qualifier member

theorem leaves_subset_root {qualifier : Qualifier} (member : qualifier ∈ criteria.qualifierList) :
    qualifier.leaves ⊆ criteria.root.leaves := by
  intro condition inside
  rw [leaves_root]
  exact List.mem_flatMap_of_mem member inside

theorem operands_subset_root {qualifier : Qualifier}
    (member : qualifier ∈ criteria.qualifierList) :
    qualifier.operands ⊆ criteria.root.operands := by
  intro operand inside
  obtain ⟨condition, isLeaf, ofLeaf⟩ := List.mem_flatMap.mp inside
  exact List.mem_flatMap.mpr ⟨condition, leaves_subset_root member isLeaf, ofLeaf⟩

/-- The qualifiers at the top level, and whether and how they are joined, make the criteria. -/
theorem eq_of_qualifierList_eq (leftNormal : left.root.IsNormal) (rightNormal : right.root.IsNormal)
    (sameList : left.qualifierList = right.qualifierList)
    (sameCombinator : (if left.root.isGroup then some left.root.operator.name else none) =
      if right.root.isGroup then some right.root.operator.name else none) : left = right := by
  obtain ⟨leftRoot⟩ := left
  obtain ⟨rightRoot⟩ := right
  cases leftRoot with
  | leaf leftCondition =>
      cases rightRoot with
      | leaf rightCondition => rw [List.head_eq_of_cons_eq sameList]
      | group head nested => cases sameCombinator
  | group leftHead leftNested =>
      cases rightRoot with
      | leaf condition => cases sameCombinator
      | group rightHead rightNested =>
          change leftNested = rightNested at sameList
          have sameOperator : leftHead.operator = rightHead.operator :=
            Operator.eq_of_name_eq (Option.some.inj sameCombinator)
          rw [leftNormal.head_eq, rightNormal.head_eq, sameOperator, sameList]

end Criteria

/-- Of all criteria that are bound over plain fields and to values that are told by their compact
texts, no two different ones have the same explanation. -/
theorem explanation_determines_bound_criteria (leftPlan rightPlan : Plan)
    (leftPath rightPath : AccessPath) (leftTarget rightTarget : RecordType)
    {leftIntent rightIntent : Intent} {leftArguments rightArguments : Arguments}
    (leftBound : leftPlan.criteria = (leftIntent.bind leftArguments).criteria)
    (rightBound : rightPlan.criteria = (rightIntent.bind rightArguments).criteria)
    (leftPlain : ∀ condition ∈ leftPlan.criteria.root.leaves, condition.Plain)
    (rightPlain : ∀ condition ∈ rightPlan.criteria.root.leaves, condition.Plain)
    (determined : DeterminedByText leftPlan.criteria.root.operands
      rightPlan.criteria.root.operands)
    (sameQualifiers : (leftPlan.explain leftPath leftTarget).qualifiers =
      (rightPlan.explain rightPath rightTarget).qualifiers)
    (sameCombinator : (leftPlan.explain leftPath leftTarget).combinator =
      (rightPlan.explain rightPath rightTarget).combinator) :
    leftPlan.criteria = rightPlan.criteria := by
  have leftNormal : leftPlan.criteria.root.IsNormal := by
    rw [leftBound]
    exact leftIntent.isNormal_bindRoot leftArguments.values
  have rightNormal : rightPlan.criteria.root.IsNormal := by
    rw [rightBound]
    exact rightIntent.isNormal_bindRoot rightArguments.values
  have sameList : leftPlan.criteria.qualifierList = rightPlan.criteria.qualifierList := by
    refine eq_of_map_eq ?_ sameQualifiers
    intro clause member other otherMember
    have leftLeaves := Criteria.leaves_subset_root member
    have rightLeaves := Criteria.leaves_subset_root otherMember
    exact (Criteria.areClauses leftNormal clause member).eq_of_text_eq
      (Criteria.areClauses rightNormal other otherMember)
      (fun condition inside => leftPlain condition (leftLeaves inside))
      (fun condition inside => rightPlain condition (rightLeaves inside))
      (determined.mono (Criteria.operands_subset_root member)
        (Criteria.operands_subset_root otherMember))
  exact Criteria.eq_of_qualifierList_eq leftNormal rightNormal sameList sameCombinator

/-- A branch without parts and an argument too many are not explained, and not bound either; the
words in the text value are not taken for anything else. -/
theorem padded_intent_has_same_criteria :
    let parts : List Part := [⟨"name", .equal⟩, ⟨"age", .between⟩]
    let values : List Json := [.string ") and (city eq \"x", .ofInt 1, .ofInt 30]
    let plan := Plan.ofCriteria ((Intent.ofTree [⟨parts⟩, ⟨[⟨"city", .isNull⟩]⟩]).bind
      (.ofValues values)).criteria
    let padded := Plan.ofCriteria ((Intent.ofTree [⟨parts⟩, ⟨[]⟩, ⟨[⟨"city", .isNull⟩]⟩]).bind
      (.ofValues (values ++ [.null]))).criteria
    plan.criteria = padded.criteria := by
  intro parts values plan padded
  have legible : ∀ value, .literal value ∈ values.map Operand.literal →
      value.Legible Document.nestingLimit := by
    intro value member
    obtain ⟨_, inside, isValue⟩ := List.mem_map.mp member
    rw [← Operand.literal.inj isValue]
    have one : (Json.ofInt 1).Legible Document.nestingLimit := .ofInt _ (by decide) (by decide)
    have thirty : (Json.ofInt 30).Legible Document.nestingLimit := .ofInt _ (by decide) (by decide)
    have each : ∀ value ∈ values, value.Legible Document.nestingLimit := by
      simp [values, one, thirty]
    exact each _ inside
  exact explanation_determines_bound_criteria plan padded .scan .byKey ⟨"Person"⟩ ⟨"Person"⟩ rfl rfl
    (by decide) (by decide) (.of_legible legible legible) rfl rfl

end KeyedQuery
