import KeyedQuery.Proofs.RecordFields

/-!
Spellings of a value.

A document spells the value that it stands for when no object inside it repeats a key. An object has
one spelling for every order of its members, and the document of a canonical value is a spelling of
it. As a record, a spelling of an object has the members of the object as its fields: under each
name it has a spelling of what the object has there, and nothing where the object has nothing.
-/

set_option autoImplicit false

namespace KeyedQuery

/-! ### Entries in order -/

theorem insertEntry_perm {Value : Type} {entries : List (String × Value)} {key : String}
    (fresh : key ∉ entries.map Prod.fst) (value : Value) :
    (insertEntry key value entries).Perm ((key, value) :: entries) := by
  induction entries with
  | nil => exact List.Perm.refl _
  | cons head tail ih =>
      rw [List.map_cons, List.mem_cons, not_or] at fresh
      unfold insertEntry
      split
      · exact List.Perm.refl _
      · split
        · exact ((ih fresh.2).cons head).trans (List.Perm.swap _ _ _)
        · rename_i notBefore notBehind
          have same : key = head.1 :=
            String.le_antisymm (String.not_lt.mp notBehind) (String.not_lt.mp notBefore)
          exact absurd same fresh.1

/-- Where no key is repeated, putting the entries in order keeps them all. -/
theorem orderedEntries_perm {Value : Type} {entries : List (String × Value)}
    (distinct : (entries.map Prod.fst).Nodup) : (orderedEntries entries).Perm entries := by
  have keeps : ∀ (pending start : List (String × Value)),
      ((pending ++ start).map Prod.fst).Nodup →
      (pending.foldl (fun entries entry => insertEntry entry.1 entry.2 entries) start).Perm
        (pending ++ start) := by
    intro pending
    induction pending with
    | nil =>
        intro start _
        exact List.Perm.refl start
    | cons head tail ih =>
        intro start allDistinct
        have fresh : head.1 ∉ start.map Prod.fst := by
          rw [List.cons_append, List.map_cons, List.nodup_cons, List.map_append] at allDistinct
          exact fun member => allDistinct.1 (List.mem_append_right _ member)
        have reordered : (tail ++ insertEntry head.1 head.2 start).Perm (head :: (tail ++ start)) :=
          ((insertEntry_perm fresh head.2).append_left tail).trans List.perm_middle
        rw [List.foldl_cons]
        exact (ih _ ((reordered.map Prod.fst).nodup_iff.mpr allDistinct)).trans reordered
  have kept := keeps entries []
  rw [List.append_nil] at kept
  exact kept distinct

theorem insertEntry_eq_append {Value : Type} {entries : List (String × Value)} {key : String}
    (greatest : ∀ entry ∈ entries, entry.1 < key) (value : Value) :
    insertEntry key value entries = entries ++ [(key, value)] := by
  induction entries with
  | nil => rfl
  | cons head tail ih =>
      rw [List.forall_mem_cons] at greatest
      have notBefore : ¬ key < head.1 := fun before =>
        String.lt_irrefl _ (String.lt_trans before greatest.1)
      unfold insertEntry
      rw [if_neg notBefore, if_pos greatest.1, ih greatest.2, List.cons_append]

/-- Entries that are written in the order of their keys stay as they are. -/
theorem orderedEntries_eq_self {Value : Type} {entries : List (String × Value)}
    (ascend : KeysAscend entries) : orderedEntries entries = entries := by
  have keeps : ∀ (pending start : List (String × Value)), KeysAscend (start ++ pending) →
      pending.foldl (fun entries entry => insertEntry entry.1 entry.2 entries) start =
        start ++ pending := by
    intro pending
    induction pending with
    | nil =>
        intro start _
        rw [List.foldl_nil, List.append_nil]
    | cons head tail ih =>
        intro start ascends
        have greatest : ∀ entry ∈ start, entry.1 < head.1 := fun entry member =>
          (List.pairwise_append.mp ascends).2.2 entry member head List.mem_cons_self
        rw [List.append_cons] at ascends
        rw [List.foldl_cons, insertEntry_eq_append greatest, ih _ ascends, List.append_assoc,
          List.singleton_append]
  exact keeps entries [] ascend

theorem KeysAscend.nodup {Value : Type} {entries : List (String × Value)}
    (ascend : KeysAscend entries) : (entries.map Prod.fst).Nodup := by
  apply List.pairwise_map.mpr
  apply ascend.imp
  intro earlier later before same
  rw [same] at before
  exact String.lt_irrefl _ before

/-! ### Spellings -/

namespace Json.Document

mutual

/-- No object inside the document repeats a key. -/
def DistinctKeys : Document → Prop
  | .array items => DistinctKeysOfItems items
  | .object members => (members.map Prod.fst).Nodup ∧ DistinctKeysOfMembers members
  | _ => True

def DistinctKeysOfItems : List Document → Prop
  | [] => True
  | item :: rest => DistinctKeys item ∧ DistinctKeysOfItems rest

def DistinctKeysOfMembers : List (Option String × Document) → Prop
  | [] => True
  | (_, value) :: rest => DistinctKeys value ∧ DistinctKeysOfMembers rest

end

structure Spells (document : Document) (json : Json) : Prop where
  distinct : document.DistinctKeys
  value : document.value? = some json

theorem map_fst_ofMembers (members : List (String × Json)) :
    (ofMembers members).map Prod.fst = (members.map Prod.fst).map some := by
  induction members with
  | nil => rfl
  | cons head tail ih =>
      unfold ofMembers
      rw [List.map_cons, ih, List.map_cons, List.map_cons]

theorem nodup_map_some {names : List String} : (names.map some).Nodup ↔ names.Nodup := by
  unfold List.Nodup
  rw [List.pairwise_map]
  simp

mutual

theorem spells_ofValue (json : Json) (canonical : json.Canonical) : (ofValue json).Spells json := by
  match json with
  | .null => exact ⟨trivial, rfl⟩
  | .bool _ => exact ⟨trivial, rfl⟩
  | .number _ => exact ⟨trivial, rfl⟩
  | .string _ => exact ⟨trivial, rfl⟩
  | .array items =>
      obtain ⟨distinct, areValues⟩ := spells_ofItems items canonical
      refine ⟨distinct, ?_⟩
      unfold ofValue value?
      rw [areValues, Option.map_some]
  | .object members =>
      obtain ⟨distinct, areValues⟩ := spells_ofMembers members canonical.2
      refine ⟨⟨?_, distinct⟩, ?_⟩
      · rw [map_fst_ofMembers, nodup_map_some]
        exact canonical.1.nodup
      · unfold ofValue value?
        rw [areValues, Option.map_some]
        unfold Json.ofMembers
        rw [orderedEntries_eq_self canonical.1]

theorem spells_ofItems (items : List Json) (canonical : CanonicalItems items) :
    DistinctKeysOfItems (ofItems items) ∧ itemValues? (ofItems items) = some items := by
  match items with
  | [] => exact ⟨trivial, rfl⟩
  | item :: rest =>
      have first := spells_ofValue item canonical.1
      obtain ⟨distinct, areValues⟩ := spells_ofItems rest canonical.2
      refine ⟨⟨first.distinct, distinct⟩, ?_⟩
      unfold ofItems itemValues?
      rw [first.value, areValues]

theorem spells_ofMembers (members : List (String × Json)) (canonical : CanonicalMembers members) :
    DistinctKeysOfMembers (ofMembers members) ∧
      memberValues? (ofMembers members) = some members := by
  match members with
  | [] => exact ⟨trivial, rfl⟩
  | (key, value) :: rest =>
      have first := spells_ofValue value canonical.1
      obtain ⟨distinct, areValues⟩ := spells_ofMembers rest canonical.2
      refine ⟨⟨first.distinct, distinct⟩, ?_⟩
      unfold ofMembers memberValues?
      rw [first.value, areValues]

end

/-! ### Values without parts -/

/-- A value that is neither an array nor an object has one spelling. -/
theorem Spells.eq_ofValue {document : Document} {json : Json} (spells : document.Spells json)
    (noArray : json.items? = none) (noObject : ∀ members, json ≠ .object members) :
    document = ofValue json := by
  have isValue := spells.value
  cases document with
  | array items =>
      obtain ⟨values, _, isArray⟩ := Option.map_eq_some_iff.mp isValue
      rw [← isArray] at noArray
      cases noArray
  | object members =>
      obtain ⟨values, _, isObject⟩ := Option.map_eq_some_iff.mp isValue
      exact absurd isObject.symm (noObject _)
  | void => cases isValue
  | null => cases isValue; rfl
  | bool value => cases isValue; rfl
  | number value => cases isValue; rfl
  | string text => cases isValue; rfl

/-! ### Arrays -/

theorem exists_array_of_spells {document : Document} {values : List Json}
    (spells : document.Spells (.array values)) :
    ∃ items, document = .array items ∧ DistinctKeysOfItems items ∧
      itemValues? items = some values := by
  have isValue := spells.value
  cases document with
  | array items =>
      obtain ⟨others, areValues, isArray⟩ := Option.map_eq_some_iff.mp isValue
      cases isArray
      exact ⟨items, rfl, spells.distinct, areValues⟩
  | object members =>
      obtain ⟨_, _, isObject⟩ := Option.map_eq_some_iff.mp isValue
      cases isObject
  | _ => cases isValue

theorem exists_items_of_itemValues? {head : Json} {tail : List Json} {items : List Document}
    (areValues : itemValues? items = some (head :: tail)) :
    ∃ item rest, items = item :: rest ∧ item.value? = some head ∧ itemValues? rest = some tail := by
  cases items with
  | nil => cases areValues
  | cons item rest =>
      unfold itemValues? at areValues
      split at areValues
      · rename_i isItem areRest
        cases areValues
        exact ⟨item, rest, rfl, isItem, areRest⟩
      · cases areValues

theorem Spells.list? {Item : Type} {decode : Document → Option Item} {write : Item → Json}
    {document : Document} {list : List Item} (spells : document.Spells (.array (list.map write)))
    (reads : ∀ item ∈ list, ∀ {other : Document}, other.Spells (write item) →
      decode other = some item) : document.list? decode = some list := by
  obtain ⟨items, isArray, distinct, areValues⟩ := exists_array_of_spells spells
  rw [isArray]
  change items.mapM decode = some list
  clear spells isArray
  induction list generalizing items with
  | nil =>
      cases items with
      | nil => rfl
      | cons item rest =>
          unfold itemValues? at areValues
          split at areValues <;> cases areValues
  | cons head tail ih =>
      rw [List.forall_mem_cons] at reads
      obtain ⟨item, rest, split, isHead, areTail⟩ := exists_items_of_itemValues? areValues
      subst split
      rw [List.mapM_cons, reads.1 ⟨distinct.1, isHead⟩, ih reads.2 rest distinct.2 areTail]
      rfl

/-! ### Objects -/

/-- Under each name the fields have a spelling of what the members have there. -/
def FieldList.Spell (fields : FieldList) (members : List (String × Json)) : Prop :=
  ∀ name, Option.Rel Spells (fields.lookup name) (members.lookup name)

/-- The members of an object whose keys are all readable. -/
def writtenFields (fields : FieldList) : List (Option String × Document) :=
  fields.map fun field => (some field.1, field.2)

theorem allReadable_writtenFields (fields : FieldList) :
    allReadable (writtenFields fields) = true := by
  induction fields with
  | nil => rfl
  | cons head tail ih => exact ih

theorem map_fst_writtenFields (fields : FieldList) :
    (writtenFields fields).map Prod.fst = (fields.map Prod.fst).map some := by
  unfold writtenFields
  rw [List.map_map, List.map_map]
  rfl

theorem knownFields_writtenFields {names : List String} {fields : FieldList}
    (areKnown : ∀ name ∈ fields.map Prod.fst, name ∈ names) :
    knownFields names (writtenFields fields) = fields := by
  induction fields with
  | nil => rfl
  | cons head tail ih =>
      rw [List.map_cons, List.forall_mem_cons] at areKnown
      unfold writtenFields at ih ⊢
      rw [List.map_cons, knownFields_cons, if_pos (List.contains_iff_mem.mpr areKnown.1),
        ih areKnown.2]

theorem exists_fields_of_memberValues? {members : List (Option String × Document)}
    {entries : List (String × Json)} (areValues : memberValues? members = some entries)
    (distinct : DistinctKeysOfMembers members) :
    ∃ fields : FieldList, members = writtenFields fields ∧
      fields.map Prod.fst = entries.map Prod.fst ∧ fields.Spell entries := by
  induction members generalizing entries with
  | nil =>
      cases areValues
      exact ⟨[], rfl, rfl, fun _ => .none⟩
  | cons head tail ih =>
      obtain ⟨key, document⟩ := head
      unfold memberValues? at areValues
      split at areValues
      · rename_i text value values isValue areRest
        cases areValues
        obtain ⟨fields, written, sameNames, spell⟩ := ih areRest distinct.2
        refine ⟨(text, document) :: fields, ?_, ?_, ?_⟩
        · rw [written]
          rfl
        · rw [List.map_cons, sameNames, List.map_cons]
        · intro name
          rw [lookup_entry_cons, lookup_entry_cons]
          split
          · exact .some ⟨distinct.1, isValue⟩
          · exact spell name
      · cases areValues

theorem exists_object_of_spells {document : Document} {members : List (String × Json)}
    (spells : document.Spells (.object members)) :
    ∃ fields : FieldList, document = .object (writtenFields fields) ∧
      (fields.map Prod.fst).Nodup ∧ (fields.map Prod.fst).Perm (members.map Prod.fst) ∧
      fields.Spell members := by
  have isValue := spells.value
  cases document with
  | object written =>
      obtain ⟨entries, areValues, isObject⟩ := Option.map_eq_some_iff.mp isValue
      obtain ⟨distinct, distinctInside⟩ := spells.distinct
      obtain ⟨fields, sameMembers, sameNames, spell⟩ :=
        exists_fields_of_memberValues? areValues distinctInside
      subst sameMembers
      rw [map_fst_writtenFields, nodup_map_some] at distinct
      have distinctEntries : (entries.map Prod.fst).Nodup := by
        rw [← sameNames]
        exact distinct
      have inOrder := orderedEntries_perm distinctEntries
      have isOrdered : orderedEntries entries = members := Json.object.inj isObject
      rw [isOrdered] at inOrder
      refine ⟨fields, rfl, distinct, ?_, ?_⟩
      · rw [sameNames]
        exact (inOrder.map Prod.fst).symm
      · intro name
        rw [← lookup_eq_of_perm distinctEntries inOrder.symm name]
        exact spell name
  | array items =>
      obtain ⟨_, _, isArray⟩ := Option.map_eq_some_iff.mp isValue
      cases isArray
  | _ => cases isValue

theorem exists_member_of_spells {document : Document} {name : String} {json : Json}
    (spells : document.Spells (.object [(name, json)])) :
    ∃ contents, document = .object [(some name, contents)] ∧ contents.Spells json := by
  obtain ⟨fields, isObject, _, sameNames, spell⟩ := exists_object_of_spells spells
  have oneName : fields.map Prod.fst = [name] := List.perm_singleton.mp sameNames
  obtain ⟨⟨key, contents⟩, isField, sameKey⟩ := List.map_eq_singleton_iff.mp oneName
  subst isField
  subst sameKey
  have related := spell key
  rw [lookup_entry_cons, if_pos rfl, lookup_entry_cons, if_pos rfl] at related
  cases related with
  | some contentsSpell => exact ⟨contents, isObject, contentsSpell⟩

theorem exists_record_of_spells {document : Document} {members : List (String × Json)}
    {names : List String} (spells : document.Spells (.object members))
    (areKnown : ∀ name ∈ members.map Prod.fst, name ∈ names) (needed : Nat) :
    ∃ fields : FieldList, document.record? names needed = some fields ∧ fields.Spell members := by
  obtain ⟨fields, isObject, distinct, sameNames, spell⟩ := exists_object_of_spells spells
  have fieldsKnown : ∀ name ∈ fields.map Prod.fst, name ∈ names :=
    fun name member => areKnown name (sameNames.mem_iff.mp member)
  refine ⟨fields, ?_, spell⟩
  rw [isObject, record?_object, knownFields_writtenFields fieldsKnown]
  exact if_pos ⟨allReadable_writtenFields fields, distinct⟩

end Json.Document

end KeyedQuery
