import Mathlib.Logic.Relation
import KeyedQuery.Proofs.RecordEdits
import KeyedQuery.Proofs.WireForm

/-!
What of a written qualifier is read.

A tree of qualifiers is made of objects, those of the qualifiers and those of their operands. How
such an object is written is not seen in the tree that is read, at whatever depth it stands. A known
member that is repeated, and a needed one that is missing, spoil the whole tree.
-/

set_option autoImplicit false

namespace KeyedQuery

open Json (Document)
open Json.Document (MemberList FieldList Respelled Spoiled Differ)

/-! ### Lists of documents -/

theorem mapM_append_cons_congr {Item Value : Type} {decode : Item → Option Value} {old new : Item}
    (same : decode old = decode new) (before after : List Item) :
    (before ++ old :: after).mapM decode = (before ++ new :: after).mapM decode := by
  rw [List.mapM_append, List.mapM_append, List.mapM_cons, List.mapM_cons, same]

/-- An item that is not read any more spoils the list around it. -/
theorem mapM_append_cons_eq_none {Item Value : Type} {decode : Item → Option Value}
    {old new : Item} {before after : List Item} {values : List Value}
    (spoils : ∀ value, decode old = some value → decode new = none)
    (accepted : (before ++ old :: after).mapM decode = some values) :
    (before ++ new :: after).mapM decode = none := by
  rw [List.mapM_append, List.mapM_cons] at accepted ⊢
  obtain ⟨earlier, isEarlier, accepted⟩ := Option.bind_eq_some_iff.mp accepted
  obtain ⟨_, isRest, _⟩ := Option.bind_eq_some_iff.mp accepted
  obtain ⟨value, isOld, _⟩ := Option.bind_eq_some_iff.mp isRest
  rw [isEarlier, spoils value isOld]
  rfl

/-! ### Related records -/

theorem bind_eq_of_rel {Value Result : Type} {relation : Value → Value → Prop}
    {left right : Option Value} {decode : Value → Option Result}
    (related : Option.Rel relation left right)
    (same : ∀ first second, relation first second → decode first = decode second) :
    left.bind decode = right.bind decode := by
  cases related with
  | none => rfl
  | some pair => exact same _ _ pair

theorem exists_of_rel_some {Value : Type} {relation : Value → Value → Prop} {left : Value}
    {right : Option Value} (related : Option.Rel relation (some left) right) :
    ∃ value, right = some value ∧ relation left value := by
  cases related with
  | some pair => exact ⟨_, rfl, pair⟩

namespace Json.Document.FieldList.DifferAt

variable {Value : Type} {name : String} {old new : Document} {left right : FieldList}

theorem optional?_eq (differ : DifferAt name old new left right) (other : String)
    (decode : Document → Option Value)
    (same : other = name → nullable? decode old = nullable? decode new) :
    left.optional? other decode = right.optional? other decode := by
  by_cases isName : other = name
  · subst isName
    unfold optional? defaulted?
    rw [differ.inLeft, differ.inRight]
    exact same rfl
  · exact optional?_congr (differ.elsewhere other isName) decode

end Json.Document.FieldList.DifferAt

/-- A reader that needs all the needed fields reads nothing of a spoiled record. -/
theorem Json.Document.Spoiled.bind_record?_eq_none {Value : Type} {known needed : List String}
    {left right : MemberList} {count : Nat} {decode : FieldList → Option Value} {value : Value}
    (spoiled : Spoiled known needed left right) (areKnown : ∀ name ∈ needed, name ∈ known)
    (needs : ∀ fields : FieldList, ∀ name ∈ needed, fields.lookup name = none →
      decode fields = none)
    (accepted : ((Document.object left).record? known count).bind decode = some value) :
    ((Document.object right).record? known count).bind decode = none := by
  obtain ⟨fields, isRecord, _⟩ := Option.bind_eq_some_iff.mp accepted
  rcases spoiled.record? areKnown count isRecord with
    noRecord | ⟨others, isOther, name, isNeeded, missing⟩
  · rw [noRecord, Option.bind_none]
  · rw [isOther, Option.bind_some, needs others name isNeeded missing]

/-! ### Operands -/

namespace Operand

theorem ofDocument?_eq_of_respelled {left right : MemberList}
    (respelled : Respelled memberNames [] left right) :
    ofDocument? (.object left) = ofDocument? (.object right) := by
  rw [ofDocument?_object, ofDocument?_object]
  apply bind_eq_of_rel (respelled.record? (fun _ listed => absurd listed List.not_mem_nil) 2)
  intro leftFields rightFields alike
  have found (name : String) := alike.needed name List.not_mem_nil
  unfold ofFields?
  rw [FieldList.required?_congr (found kindName), found contentsName]

theorem ofFields?_eq_none_of_missing {fields : FieldList} {name : String}
    (isNeeded : name ∈ memberNames) (missing : fields.lookup name = none) :
    ofFields? fields = none := by
  unfold ofFields?
  rcases List.mem_cons.mp isNeeded with isKind | inRest
  · rw [← isKind, FieldList.required?_of_missing missing]
    rfl
  · rw [← List.mem_singleton.mp inRest, missing]
    cases fields.required? kindName Document.choice? <;> rfl

/-- An operand does without neither of its members, and does not take one twice. -/
theorem ofDocument?_eq_none_of_spoiled {left right : MemberList} {operand : Operand}
    (spoiled : Spoiled memberNames memberNames left right)
    (accepted : ofDocument? (.object left) = some operand) :
    ofDocument? (.object right) = none := by
  rw [ofDocument?_object] at accepted ⊢
  apply spoiled.bind_record?_eq_none (fun _ listed => listed) _ accepted
  intro fields name isNeeded missing
  exact ofFields?_eq_none_of_missing isNeeded missing

end Operand

/-! ### Qualifiers by their fields -/

namespace Qualifier

/-- The members that a qualifier may leave out. -/
def optionalNames : List String :=
  ["field", "value1", "value2", "qualifiers"]

/-- The objects of a tree are written in another way at one place: those of qualifiers as the first
relation says, those of operands as the second. -/
inductive Edited (onQualifier onOperand : MemberList → MemberList → Prop) :
    Document → Document → Prop where
  | here {left right : MemberList} (edit : onQualifier left right) :
      Edited onQualifier onOperand (.object left) (.object right)
  | operand {name : String} {left right : MemberList} {whole edited : Document}
      (isOperand : name = "value1" ∨ name = "value2") (edit : onOperand left right)
      (inside : Differ memberNames name (.object left) (.object right) whole edited) :
      Edited onQualifier onOperand whole edited
  | nested {before after : List Document} {old new whole edited : Document}
      (deeper : Edited onQualifier onOperand old new)
      (inside : Differ memberNames "qualifiers" (.array (before ++ old :: after))
        (.array (before ++ new :: after)) whole edited) :
      Edited onQualifier onOperand whole edited

theorem ofFields?_congr {left right : FieldList}
    (operator : left.lookup "operator" = right.lookup "operator")
    (field : left.optional? "field" Document.string? = right.optional? "field" Document.string?)
    (value1 : left.optional? "value1" Operand.ofDocument? =
      right.optional? "value1" Operand.ofDocument?)
    (value2 : left.optional? "value2" Operand.ofDocument? =
      right.optional? "value2" Operand.ofDocument?)
    (qualifiers : left.optional? "qualifiers" (Document.list? ofDocument?) =
      right.optional? "qualifiers" (Document.list? ofDocument?)) :
    ofFields? left = ofFields? right := by
  unfold ofFields? conditionOfFields?
  rw [field, FieldList.required?_congr operator, value1, value2, qualifiers]

/-- A qualifier is read exactly when each of its fields is. -/
theorem isSome_ofFields?_iff (fields : FieldList) :
    (ofFields? fields).isSome ↔
      (fields.required? "operator" Operator.ofDocument?).isSome ∧
        (fields.optional? "field" Document.string?).isSome ∧
        (fields.optional? "value1" Operand.ofDocument?).isSome ∧
        (fields.optional? "value2" Operand.ofDocument?).isSome ∧
        (fields.optional? "qualifiers" (Document.list? ofDocument?)).isSome := by
  unfold ofFields? conditionOfFields?
  cases fields.optional? "field" Document.string? <;>
    cases fields.required? "operator" Operator.ofDocument? <;>
    cases fields.optional? "value1" Operand.ofDocument? <;>
    cases fields.optional? "value2" Operand.ofDocument? <;>
    cases fields.optional? "qualifiers" (Document.list? ofDocument?) <;>
    simp

/-! ### Other ways of writing a tree -/

abbrev RespelledTree : Document → Document → Prop :=
  Edited (Respelled memberNames optionalNames) (Respelled Operand.memberNames [])

theorem ofDocument?_eq_of_differ {name : String} {old new whole edited : Document}
    (differ : Differ memberNames name old new whole edited) (isKnown : name ∈ memberNames)
    (same : ∀ left right, FieldList.DifferAt name old new left right →
      ofFields? left = ofFields? right) :
    ofDocument? whole = ofDocument? edited := by
  rw [ofDocument?_eq, ofDocument?_eq]
  exact bind_eq_of_rel (differ.record? isKnown (by decide) 2) same

theorem ofDocument?_eq_of_respelled {whole edited : Document}
    (respelled : RespelledTree whole edited) : ofDocument? whole = ofDocument? edited := by
  induction respelled with
  | here edit =>
      rw [ofDocument?_eq, ofDocument?_eq]
      apply bind_eq_of_rel (edit.record? (by decide) 2)
      intro left right alike
      exact ofFields?_congr (alike.needed "operator" (by decide)) (alike.optional?_eq _ _)
        (alike.optional?_eq _ _) (alike.optional?_eq _ _) (alike.optional?_eq _ _)
  | @operand name leftMembers rightMembers _ _ isOperand edit inside =>
      have sameOperand : Document.nullable? Operand.ofDocument? (.object leftMembers) =
          Document.nullable? Operand.ofDocument? (.object rightMembers) :=
        congrArg (Option.map some) (Operand.ofDocument?_eq_of_respelled edit)
      have isKnown : name ∈ memberNames := by rcases isOperand with rfl | rfl <;> decide
      have notOperator : "operator" ≠ name := by rcases isOperand with rfl | rfl <;> decide
      have notField : "field" ≠ name := by rcases isOperand with rfl | rfl <;> decide
      have notQualifiers : "qualifiers" ≠ name := by rcases isOperand with rfl | rfl <;> decide
      apply ofDocument?_eq_of_differ inside isKnown
      intro left right differ
      exact ofFields?_congr (differ.elsewhere _ notOperator)
        (differ.optional?_eq _ _ fun isName => absurd isName notField)
        (differ.optional?_eq _ _ fun _ => sameOperand)
        (differ.optional?_eq _ _ fun _ => sameOperand)
        (differ.optional?_eq _ _ fun isName => absurd isName notQualifiers)
  | @nested before after old new _ _ _ inside sameNested =>
      have sameList : Document.nullable? (Document.list? ofDocument?)
            (.array (before ++ old :: after)) =
          Document.nullable? (Document.list? ofDocument?) (.array (before ++ new :: after)) :=
        congrArg (Option.map some) (mapM_append_cons_congr sameNested before after)
      apply ofDocument?_eq_of_differ inside (by decide)
      intro left right differ
      exact ofFields?_congr (differ.elsewhere _ (by decide))
        (differ.optional?_eq _ _ fun isName => absurd isName (by decide))
        (differ.optional?_eq _ _ fun isName => absurd isName (by decide))
        (differ.optional?_eq _ _ fun isName => absurd isName (by decide))
        (differ.optional?_eq _ _ fun _ => sameList)

theorem ofDocument?_eq_of_rewritten {whole edited : Document}
    (rewritten : Relation.ReflTransGen RespelledTree whole edited) :
    ofDocument? whole = ofDocument? edited := by
  induction rewritten with
  | refl => rfl
  | tail _ respelled sameSoFar => rw [sameSoFar, ofDocument?_eq_of_respelled respelled]

/-! ### Spoiled trees -/

abbrev SpoiledTree : Document → Document → Prop :=
  Edited (Spoiled memberNames ["operator"]) (Spoiled Operand.memberNames Operand.memberNames)

/-- A field that a qualifier has, and that is not readable after the change, is not made up for. -/
theorem ofDocument?_eq_none_of_differ {Value : Type} {name : String}
    {old new whole edited : Document} {qualifier : Qualifier} {decode : Document → Option Value}
    (differ : Differ memberNames name old new whole edited) (isKnown : name ∈ memberNames)
    (needs : ∀ fields, (ofFields? fields).isSome → (fields.optional? name decode).isSome)
    (oldNotNull : old ≠ .null) (newNotNull : new ≠ .null)
    (spoils : ∀ value, decode old = some value → decode new = none)
    (accepted : ofDocument? whole = some qualifier) : ofDocument? edited = none := by
  rw [ofDocument?_eq] at accepted ⊢
  obtain ⟨fields, isRecord, isRead⟩ := Option.bind_eq_some_iff.mp accepted
  have related := differ.record? isKnown (by decide) 2
  rw [isRecord] at related
  obtain ⟨others, isOther, differAt⟩ := exists_of_rel_some related
  rw [isOther, Option.bind_some, ← Option.not_isSome_iff_eq_none]
  intro readEdited
  have readOld := needs fields (Option.isSome_iff_exists.mpr ⟨qualifier, isRead⟩)
  have readNew := needs others readEdited
  rw [FieldList.optional?_of_found differAt.inLeft oldNotNull, Option.isSome_map] at readOld
  obtain ⟨value, isValue⟩ := Option.isSome_iff_exists.mp readOld
  rw [FieldList.optional?_of_found differAt.inRight newNotNull, spoils value isValue] at readNew
  cases readNew

theorem ofDocument?_eq_none_of_spoiled {whole edited : Document}
    (spoiled : SpoiledTree whole edited) :
    ∀ qualifier, ofDocument? whole = some qualifier → ofDocument? edited = none := by
  induction spoiled with
  | here edit =>
      intro qualifier accepted
      rw [ofDocument?_eq] at accepted ⊢
      apply edit.bind_record?_eq_none (by decide) _ accepted
      intro fields name isNeeded missing
      rw [← Option.not_isSome_iff_eq_none, isSome_ofFields?_iff,
        ← List.mem_singleton.mp isNeeded, FieldList.required?_of_missing missing]
      simp
  | @operand name _ _ _ _ isOperand edit inside =>
      intro qualifier accepted
      have isKnown : name ∈ memberNames := by rcases isOperand with rfl | rfl <;> decide
      have needs (fields : FieldList) (isRead : (ofFields? fields).isSome) :
          (fields.optional? name Operand.ofDocument?).isSome := by
        obtain ⟨_, _, read1, read2, _⟩ := (isSome_ofFields?_iff fields).mp isRead
        rcases isOperand with rfl | rfl
        · exact read1
        · exact read2
      apply ofDocument?_eq_none_of_differ inside isKnown needs (by simp) (by simp) _ accepted
      intro operand isOperandOld
      exact Operand.ofDocument?_eq_none_of_spoiled edit isOperandOld
  | nested _ inside spoilsNested =>
      intro qualifier accepted
      have needs (fields : FieldList) (isRead : (ofFields? fields).isSome) :
          (fields.optional? "qualifiers" (Document.list? ofDocument?)).isSome :=
        ((isSome_ofFields?_iff fields).mp isRead).2.2.2.2
      apply ofDocument?_eq_none_of_differ inside (by decide) needs (by simp) (by simp) _ accepted
      intro qualifiers areRead
      exact mapM_append_cons_eq_none spoilsNested areRead

end Qualifier

/-- In every object of the tree members may change places, unknown ones may come and go, and optional
ones that are absent may be written as null: the same qualifier is read. Once a needed member is
removed or a known one repeated, nothing is read. -/
theorem only_known_members_are_read (document other : Document) (qualifier : Qualifier)
    (accepted : Qualifier.ofDocument? document = some qualifier)
    (rewritten : Relation.ReflTransGen Qualifier.RespelledTree document other) :
    Qualifier.ofDocument? other = some qualifier ∧
      ∀ spoilt, Qualifier.SpoiledTree other spoilt → Qualifier.ofDocument? spoilt = none := by
  have acceptedOther : Qualifier.ofDocument? other = some qualifier := by
    rw [← Qualifier.ofDocument?_eq_of_rewritten rewritten]
    exact accepted
  constructor
  · exact acceptedOther
  · intro spoilt spoiled
    exact Qualifier.ofDocument?_eq_none_of_spoiled spoiled qualifier acceptedOther

/-- A leaf whose object begins with the given members. -/
def writtenLeaf (others operand : MemberList) : Document :=
  .object (others ++ [(some "operator", .string "EQ")] ++ [(some "value1", .object operand)])

/-- A group of one member whose object begins with the given members. -/
def writtenGroup (others : MemberList) (member : Document) : Document :=
  .object (others ++ [(some "operator", .string "AND")] ++ [(some "qualifiers", .array [member])])

theorem edited_group {onQualifier onOperand : MemberList → MemberList → Prop}
    {old new : Document} (others : MemberList)
    (edited : Qualifier.Edited onQualifier onOperand old new) :
    Qualifier.Edited onQualifier onOperand (writtenGroup others old) (writtenGroup others new) :=
  @Qualifier.Edited.nested _ _ [] [] _ _ _ _ edited .member

theorem edited_leaf {onQualifier onOperand : MemberList → MemberList → Prop}
    {left right : MemberList} (others : MemberList) (edit : onOperand left right) :
    Qualifier.Edited onQualifier onOperand (writtenLeaf others left) (writtenLeaf others right) :=
  .operand (.inl rfl) edit .member

/-- An operand inside a nested leaf is read with its members turned round, beside a null field and an
unknown member of the group, and it is not read without its kind. -/
theorem nested_operand_is_read_without_order :
    let leaf : Qualifier := .leaf ⟨none, .equal, some (.literal .null), none⟩
    let group : Qualifier := .group ⟨none, .and, none, none⟩ [leaf]
    let kind : Option String × Document := (some Operand.kindName, .string "literal")
    let contents : Option String × Document := (some Operand.contentsName, .null)
    let note : Option String × Document := (some "note", .void)
    let field : Option String × Document := (some "field", .null)
    Qualifier.ofDocument? (writtenGroup [note] (writtenLeaf [field] [contents, kind])) =
        some group ∧
      Qualifier.ofDocument? (writtenGroup [note] (writtenLeaf [field] [contents])) = none := by
  intro leaf group kind contents note field
  have accepted : Qualifier.ofDocument? (writtenGroup [] (writtenLeaf [] [kind, contents])) =
      some group := by
    have canonical : group.toJson.Canonical := by decide
    exact group.ofDocument?_of_spells (Document.spells_ofValue group.toJson canonical)
  have operandTurned : Qualifier.RespelledTree (writtenGroup [] (writtenLeaf [] [kind, contents]))
      (writtenGroup [] (writtenLeaf [] [contents, kind])) :=
    edited_group [] (edited_leaf [] (.reordered (.swap ..)))
  have fieldWritten : Qualifier.RespelledTree (writtenGroup [] (writtenLeaf [] [contents, kind]))
      (writtenGroup [] (writtenLeaf [field] [contents, kind])) :=
    edited_group [] (.here (@Respelled.nullWritten _ _ [] _ "field" (by decide) (by simp)))
  have noteAdded :
      Qualifier.RespelledTree (writtenGroup [] (writtenLeaf [field] [contents, kind]))
        (writtenGroup [note] (writtenLeaf [field] [contents, kind])) :=
    .here (@Respelled.unknownAdded _ _ [] _ "note" _ (by decide))
  have readAlike := only_known_members_are_read _ _ group accepted
    (((Relation.ReflTransGen.single operandTurned).tail fieldWritten).tail noteAdded)
  refine ⟨readAlike.1, readAlike.2 _ ?_⟩
  apply edited_group [note]
  exact edited_leaf [field] (@Spoiled.removed _ _ [contents] [] _ _ (by decide))

end KeyedQuery
