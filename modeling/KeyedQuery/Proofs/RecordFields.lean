import KeyedQuery.Wire.Qualifier

/-!
Records, told by their fields.

A record is read once into its fields; what becomes of it depends on what is found under each name.
An object is a record when all its keys are readable and no field is given twice. Operands and
qualifiers are what their fields make of them, and a null under the name of a field that may be
left out says the same as nothing.
-/

set_option autoImplicit false

namespace KeyedQuery

/-! ### Looking up fields -/

namespace Json.Document

theorem lookup_eq_some_iff_mem {Value : Type} {entries : List (String × Value)} {key : String}
    {value : Value} (distinct : (entries.map Prod.fst).Nodup) :
    entries.lookup key = some value ↔ (key, value) ∈ entries := by
  constructor
  · exact mem_of_lookup_eq_some
  · intro member
    obtain ⟨before, after, split⟩ := List.append_of_mem member
    rw [List.lookup_eq_some_iff]
    refine ⟨before, after, split, ?_⟩
    intro entry earlier
    rw [bne_iff_ne]
    intro same
    rw [split, List.map_append, List.map_cons, List.nodup_append] at distinct
    exact distinct.2.2 entry.1 (List.mem_map_of_mem earlier) key List.mem_cons_self same.symm

/-- Distinct fields are found alike in every order. -/
theorem lookup_eq_of_perm {Value : Type} {left right : List (String × Value)}
    (distinct : (left.map Prod.fst).Nodup) (reordered : left.Perm right) (key : String) :
    left.lookup key = right.lookup key := by
  have alsoDistinct : (right.map Prod.fst).Nodup := (reordered.map Prod.fst).nodup_iff.mp distinct
  apply Option.ext
  intro value
  rw [lookup_eq_some_iff_mem distinct, lookup_eq_some_iff_mem alsoDistinct, reordered.mem_iff]

theorem lookup_eq_none_of_not_mem {Value : Type} {entries : List (String × Value)} {key : String}
    (absent : key ∉ entries.map Prod.fst) : entries.lookup key = none := by
  rw [List.lookup_eq_none_iff]
  intro entry member
  rw [bne_iff_ne]
  intro same
  rw [same] at absent
  exact absent (List.mem_map_of_mem member)

/-! ### The fields of an object -/

/-- The field that a member is, if its name is one of the given ones. -/
def knownField? (names : List String) : Option String × Document → Option (String × Document)
  | (some name, value) => if names.contains name then some (name, value) else none
  | (none, _) => none

def knownFields (names : List String) (members : List (Option String × Document)) : FieldList :=
  members.filterMap (knownField? names)

def allReadable (members : List (Option String × Document)) : Bool :=
  members.all fun member => member.1.isSome

theorem readableMembers?_eq_none {members : List (Option String × Document)}
    (unreadable : allReadable members = false) : readableMembers? members = none := by
  induction members with
  | nil => cases unreadable
  | cons head tail ih =>
      obtain ⟨key, value⟩ := head
      cases key with
      | none => rfl
      | some name =>
          have inTail : allReadable tail = false := unreadable
          unfold readableMembers?
          rw [ih inTail]
          rfl

theorem knownFields_cons (names : List String) (name : String) (value : Document)
    (members : List (Option String × Document)) :
    knownFields names ((some name, value) :: members) =
      if names.contains name then (name, value) :: knownFields names members
      else knownFields names members := by
  unfold knownFields
  by_cases known : names.contains name
  · rw [if_pos known]
    exact List.filterMap_cons_some (if_pos known)
  · rw [if_neg known]
    exact List.filterMap_cons_none (if_neg known)

theorem filter_readableMembers? {members : List (Option String × Document)} (names : List String)
    (readable : allReadable members = true) :
    (readableMembers? members).map (fun fields =>
      fields.filter fun field => names.contains field.1) = some (knownFields names members) := by
  induction members with
  | nil => rfl
  | cons head tail ih =>
      obtain ⟨key, value⟩ := head
      cases key with
      | none => cases readable
      | some name =>
          have inTail : allReadable tail = true := readable
          obtain ⟨fields, readTail, kept⟩ := Option.map_eq_some_iff.mp (ih inTail)
          unfold readableMembers?
          rw [readTail, Option.map_some, Option.map_some, List.filter_cons, kept, knownFields_cons]

theorem record?_object (names : List String) (needed : Nat)
    (members : List (Option String × Document)) :
    (object members).record? names needed =
      if allReadable members = true ∧ ((knownFields names members).map Prod.fst).Nodup then
        some (knownFields names members)
      else none := by
  simp only [record?]
  cases readable : allReadable members with
  | false =>
      rw [readableMembers?_eq_none readable]
      simp
  | true =>
      obtain ⟨fields, isRead, kept⟩ :=
        Option.map_eq_some_iff.mp (filter_readableMembers? names readable)
      simp only [isRead, kept, true_and]

end Json.Document

/-! ### Fields that may be left out -/

namespace Json.Document.FieldList

variable {Value : Type} {left right : FieldList} {name : String}

theorem optional?_congr (same : left.lookup name = right.lookup name)
    (decode : Document → Option Value) :
    left.optional? name decode = right.optional? name decode := by
  unfold optional? defaulted?
  rw [same]

theorem required?_congr (same : left.lookup name = right.lookup name)
    (decode : Document → Option Value) :
    left.required? name decode = right.required? name decode := by
  unfold required?
  rw [same]

theorem required?_of_missing {fields : FieldList} (missing : fields.lookup name = none)
    (decode : Document → Option Value) : fields.required? name decode = none := by
  unfold required?
  rw [missing, Option.bind_none]

theorem optional?_of_absent {fields : FieldList} (absent : fields.lookup name = none)
    (decode : Document → Option Value) : fields.optional? name decode = some none := by
  unfold optional? defaulted?
  rw [absent]

theorem optional?_of_null {fields : FieldList} (isNull : fields.lookup name = some .null)
    (decode : Document → Option Value) : fields.optional? name decode = some none := by
  unfold optional? defaulted?
  rw [isNull]
  rfl

theorem optional?_of_found {fields : FieldList} {document : Document}
    (found : fields.lookup name = some document) (notNull : document ≠ .null)
    (decode : Document → Option Value) :
    fields.optional? name decode = (decode document).map some := by
  unfold optional? defaulted?
  rw [found]
  dsimp only
  unfold nullable?
  split
  · exact absurd rfl notNull
  · rfl

end Json.Document.FieldList

/-! ### Operands and qualifiers by their fields -/

open Json (Document)

namespace Operand

def memberNames : List String :=
  [kindName, contentsName]

/-- The operand that the fields of an object describe. -/
def ofFields? (fields : Document.FieldList) : Option Operand := do
  let kind ← fields.required? kindName Document.choice?
  let contents ← fields.lookup contentsName
  ofContents? kind contents

theorem ofDocument?_object (members : List (Option String × Document)) :
    ofDocument? (.object members) =
      ((Document.object members).record? memberNames 2).bind ofFields? := by
  unfold ofDocument? memberNames
  cases (Document.object members).record? [kindName, contentsName] 2 with
  | none => rfl
  | some fields =>
      have named : fields.required? kindName (kind? (.object members)) =
          fields.required? kindName Document.choice? := rfl
      simp only [named, Option.bind_some, ofFields?]
      cases fields.required? kindName Document.choice? with
      | none => rfl
      | some kind => cases fields.lookup contentsName <;> rfl

end Operand

namespace Qualifier

/-- A leaf, or a group where qualifiers are given, be it none. -/
def ofParts (condition : Condition) : Option (List Qualifier) → Qualifier
  | none => .leaf condition
  | some nested => .group condition nested

/-- The qualifier that the fields of a record describe. -/
def ofFields? (fields : Document.FieldList) : Option Qualifier := do
  let condition ← conditionOfFields? fields
  let nested ← fields.optional? "qualifiers" (Document.list? ofDocument?)
  return ofParts condition nested

theorem ofDocuments?_eq_mapM (documents : List Document) :
    ofDocuments? documents = documents.mapM ofDocument? := by
  induction documents with
  | nil =>
      unfold ofDocuments?
      rfl
  | cons head tail ih =>
      unfold ofDocuments?
      rw [ih, List.mapM_cons]
      cases ofDocument? head with
      | none => rfl
      | some qualifier => cases tail.mapM ofDocument? <;> rfl

theorem ofDocument?_eq (document : Document) :
    ofDocument? document = (document.record? memberNames 2).bind ofFields? := by
  rw [ofDocument?]
  split
  · rename_i noRecord
    rw [noRecord]
    rfl
  · rename_i fields isRecord
    rw [isRecord, Option.bind_some]
    unfold ofFields?
    cases conditionOfFields? fields with
    | none => rfl
    | some condition =>
        dsimp only
        split
        · rename_i absent
          rw [Document.FieldList.optional?_of_absent absent]
          rfl
        · rename_i isNull
          rw [Document.FieldList.optional?_of_null isNull]
          rfl
        · rename_i items isArray
          rw [Document.FieldList.optional?_of_found isArray (by simp), ofDocuments?_eq_mapM]
          unfold Document.list?
          dsimp only
          cases items.mapM ofDocument? <;> rfl
        · rename_i other notNull notArray found
          have unlisted : Document.list? ofDocument? other = none := by
            unfold Document.list?
            split
            · exact absurd rfl (notArray _)
            · rfl
          rw [Document.FieldList.optional?_of_found found notNull, unlisted]
          rfl

end Qualifier

end KeyedQuery
