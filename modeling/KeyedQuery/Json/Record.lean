import KeyedQuery.Json.Document

/-!
Records read from documents.

A record has fields with fixed names. It is written as an object, in any order and beside members
of other names, or as an array of its fields in their order. No field is written twice.
`sizeOf_lt_of_lookup_record?` says that every field found is smaller than the document, so reading
that goes into the fields comes to an end.
-/

set_option autoImplicit false

namespace KeyedQuery.Json.Document

abbrev FieldList : Type :=
  List (String × Document)

/-- The members of an object, if all keys are readable. -/
def readableMembers? : List (Option String × Document) → Option FieldList
  | [] => some []
  | (some key, value) :: rest => (readableMembers? rest).map ((key, value) :: ·)
  | (none, _) :: _ => none

/-- The fields of a record. In an array the first `needed` fields have to be there. -/
def record? (names : List String) (needed : Nat) : Document → Option FieldList
  | .array items =>
      if needed ≤ items.length ∧ items.length ≤ names.length then some (names.zip items) else none
  | .object members =>
      match readableMembers? members with
      | none => none
      | some readable =>
          let fields := readable.filter fun field => names.contains field.1
          if (fields.map Prod.fst).Nodup then some fields else none
  | _ => none

/-- The name of a choice without contents: a string, or an object that gives the name a null. -/
def choice? : Document → Option String
  | .string name => some name
  | .object [(some name, .null)] => some name
  | _ => none

def string? : Document → Option String
  | .string text => some text
  | _ => none

def bool? : Document → Option Bool
  | .bool value => some value
  | _ => none

def int64? : Document → Option Int64
  | .number (.whole value) => Word.signed? value
  | _ => none

def uint64? : Document → Option UInt64
  | .number (.whole value) => Word.unsigned? value
  | _ => none

def list? {Item : Type} (decode : Document → Option Item) : Document → Option (List Item)
  | .array items => items.mapM decode
  | _ => none

def nullable? {Value : Type} (decode : Document → Option Value) :
    Document → Option (Option Value)
  | .null => some none
  | document => (decode document).map some

def FieldList.required? {Value : Type} (fields : FieldList) (name : String)
    (decode : Document → Option Value) : Option Value :=
  (fields.lookup name).bind decode

def FieldList.defaulted? {Value : Type} (fields : FieldList) (name : String) (default : Value)
    (decode : Document → Option Value) : Option Value :=
  match fields.lookup name with
  | none => some default
  | some document => decode document

def FieldList.optional? {Value : Type} (fields : FieldList) (name : String)
    (decode : Document → Option Value) : Option (Option Value) :=
  fields.defaulted? name none (nullable? decode)

/-! ### Fields are smaller than their record -/

theorem mem_of_lookup_eq_some {Value : Type} {entries : List (String × Value)} {key : String}
    {value : Value} (found : entries.lookup key = some value) : (key, value) ∈ entries := by
  induction entries with
  | nil => simp at found
  | cons head tail ih =>
      rw [lookup_entry_cons] at found
      split at found
      · rename_i isHead
        have sameValue : head.2 = value := Option.some.inj found
        rw [isHead, ← sameValue]
        exact List.mem_cons_self
      · exact List.mem_cons_of_mem head (ih found)

theorem mem_of_readableMembers? {members : List (Option String × Document)} {fields : FieldList}
    {field : String × Document} (readable : readableMembers? members = some fields)
    (member : field ∈ fields) : (some field.1, field.2) ∈ members := by
  induction members generalizing fields with
  | nil =>
      have nothing : fields = [] := (Option.some.inj readable).symm
      rw [nothing] at member
      exact absurd member List.not_mem_nil
  | cons head tail ih =>
      obtain ⟨key, value⟩ := head
      cases key with
      | none => simp [readableMembers?] at readable
      | some name =>
          unfold readableMembers? at readable
          obtain ⟨others, readRest, isCons⟩ := Option.map_eq_some_iff.mp readable
          rw [← isCons] at member
          rcases List.mem_cons.mp member with isHead | inRest
          · simp [isHead]
          · exact List.mem_cons_of_mem _ (ih readRest inRest)

theorem sizeOf_lt_of_mem_object {members : List (Option String × Document)}
    {key : Option String} {value : Document} (member : (key, value) ∈ members) :
    sizeOf value < sizeOf (Document.object members) := by
  have inList := List.sizeOf_lt_of_mem member
  simp only [Document.object.sizeOf_spec, Prod.mk.sizeOf_spec] at *
  omega

theorem sizeOf_lt_of_mem_array {items : List Document} {item : Document}
    (member : item ∈ items) : sizeOf item < sizeOf (Document.array items) := by
  have inList := List.sizeOf_lt_of_mem member
  simp only [Document.array.sizeOf_spec] at *
  omega

theorem sizeOf_lt_of_lookup_record? {names : List String} {needed : Nat} {document : Document}
    {fields : FieldList} {name : String} {value : Document}
    (isRecord : document.record? names needed = some fields)
    (found : fields.lookup name = some value) : sizeOf value < sizeOf document := by
  have member := mem_of_lookup_eq_some found
  unfold record? at isRecord
  split at isRecord
  · split at isRecord
    · rw [← Option.some.inj isRecord] at member
      exact sizeOf_lt_of_mem_array (List.of_mem_zip member).2
    · exact absurd isRecord (by simp)
  · split at isRecord
    · exact absurd isRecord (by simp)
    · rename_i readable isReadable
      dsimp only at isRecord
      split at isRecord
      · rw [← Option.some.inj isRecord] at member
        exact sizeOf_lt_of_mem_object
          (mem_of_readableMembers? isReadable (List.mem_filter.mp member).1)
      · exact absurd isRecord (by simp)
  · exact absurd isRecord (by simp)

end KeyedQuery.Json.Document
