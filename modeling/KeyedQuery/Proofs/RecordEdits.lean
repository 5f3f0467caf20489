import KeyedQuery.Proofs.RecordFields

/-!
What a change of a written record does to its fields.

A record that is written as an object may be written in many ways: its members in any order,
members of other names between them, a null under the name of a field that may be left out. Its
fields are then read alike. Where a known name is written twice there is no record any more, and
where a needed member is missing the record lacks that field. A change inside one field leaves the
others as they are.
-/

set_option autoImplicit false

namespace KeyedQuery

namespace Json.Document

abbrev MemberList : Type :=
  List (Option String × Document)

/-! ### Other ways of writing an object -/

/-- The members are written in another way, which a reader of the known names does not see. -/
inductive Respelled (known optional : List String) : MemberList → MemberList → Prop where
  | reordered {left right : MemberList} (same : left.Perm right) :
      Respelled known optional left right
  | unknownAdded {before after : MemberList} {name : String} {value : Document}
      (unknown : name ∉ known) :
      Respelled known optional (before ++ after) (before ++ (some name, value) :: after)
  | unknownRemoved {before after : MemberList} {name : String} {value : Document}
      (unknown : name ∉ known) :
      Respelled known optional (before ++ (some name, value) :: after) (before ++ after)
  | nullWritten {before after : MemberList} {name : String} (mayBeAbsent : name ∈ optional)
      (absent : ∀ value, (some name, value) ∉ before ++ after) :
      Respelled known optional (before ++ after) (before ++ (some name, .null) :: after)

/-- A known name is written once more, or a needed member is taken away. -/
inductive Spoiled (known needed : List String) : MemberList → MemberList → Prop where
  | repeated {before after : MemberList} {name : String} {value earlier : Document}
      (isKnown : name ∈ known) (written : (some name, earlier) ∈ before ++ after) :
      Spoiled known needed (before ++ after) (before ++ (some name, value) :: after)
  | removed {before after : MemberList} {name : String} {value : Document}
      (isNeeded : name ∈ needed) :
      Spoiled known needed (before ++ (some name, value) :: after) (before ++ after)

theorem knownFields_append (names : List String) (before after : MemberList) :
    knownFields names (before ++ after) = knownFields names before ++ knownFields names after :=
  List.filterMap_append

theorem knownFields_insert_unknown {names : List String} {name : String} (unknown : name ∉ names)
    (before after : MemberList) (value : Document) :
    knownFields names (before ++ (some name, value) :: after) =
      knownFields names (before ++ after) := by
  have notKnown : ¬ names.contains name = true := by
    rw [List.contains_iff_mem]
    exact unknown
  rw [knownFields_append, knownFields_append, knownFields_cons, if_neg notKnown]

theorem knownFields_insert_known {names : List String} {name : String} (isKnown : name ∈ names)
    (before after : MemberList) (value : Document) :
    knownFields names (before ++ (some name, value) :: after) =
      knownFields names before ++ (name, value) :: knownFields names after := by
  rw [knownFields_append, knownFields_cons, if_pos (List.contains_iff_mem.mpr isKnown)]

theorem allReadable_insert (before after : MemberList) (name : String) (value : Document) :
    allReadable (before ++ (some name, value) :: after) = allReadable (before ++ after) := by
  simp [allReadable]

theorem mem_knownFields_iff {names : List String} {name : String} (isKnown : name ∈ names)
    (value : Document) (members : MemberList) :
    (name, value) ∈ knownFields names members ↔ (some name, value) ∈ members := by
  unfold knownFields
  rw [List.mem_filterMap]
  constructor
  · intro listed
    obtain ⟨⟨key, contents⟩, member, isField⟩ := listed
    cases key with
    | none => cases isField
    | some other =>
        obtain ⟨_, same⟩ := Option.ite_none_right_eq_some.mp isField
        cases same
        exact member
  · intro member
    exact ⟨(some name, value), member, if_pos (List.contains_iff_mem.mpr isKnown)⟩

theorem name_mem_knownFields_iff {names : List String} {name : String} (isKnown : name ∈ names)
    (members : MemberList) :
    name ∈ (knownFields names members).map Prod.fst ↔ ∃ value, (some name, value) ∈ members := by
  rw [List.mem_map]
  constructor
  · intro listed
    obtain ⟨⟨_, value⟩, member, same⟩ := listed
    cases same
    exact ⟨value, (mem_knownFields_iff isKnown value members).mp member⟩
  · intro written
    obtain ⟨value, member⟩ := written
    exact ⟨(name, value), (mem_knownFields_iff isKnown value members).mpr member, rfl⟩

theorem nodup_names_insert_iff {Value : Type} (before after : List (String × Value))
    (name : String) (value : Value) :
    ((before ++ (name, value) :: after).map Prod.fst).Nodup ↔
      name ∉ (before ++ after).map Prod.fst ∧ ((before ++ after).map Prod.fst).Nodup := by
  have inFront : (before ++ (name, value) :: after).Perm ((name, value) :: (before ++ after)) :=
    List.perm_middle
  rw [(inFront.map Prod.fst).nodup_iff, List.map_cons, List.nodup_cons]

/-! ### Fields that are read alike -/

namespace FieldList

/-- The fields are the same, but that a null may stand under an optional name where the other has
nothing. -/
structure Alike (optional : List String) (left right : FieldList) : Prop where
  needed : ∀ name, name ∉ optional → left.lookup name = right.lookup name
  other : ∀ name, left.lookup name = right.lookup name ∨
    (left.lookup name = none ∧ right.lookup name = some .null)

theorem Alike.refl (optional : List String) (fields : FieldList) : fields.Alike optional fields :=
  ⟨fun _ _ => rfl, fun _ => Or.inl rfl⟩

theorem Alike.optional?_eq {Value : Type} {optional : List String} {left right : FieldList}
    (alike : left.Alike optional right) (name : String) (decode : Document → Option Value) :
    left.optional? name decode = right.optional? name decode := by
  rcases alike.other name with same | ⟨absent, isNull⟩
  · exact optional?_congr same decode
  · rw [optional?_of_absent absent, optional?_of_null isNull]

end FieldList

theorem rel_ite_of_iff {Value : Type} {relation : Value → Value → Prop} {left right : Value}
    {first second : Prop} [Decidable first] [Decidable second] (same : first ↔ second)
    (related : first → relation left right) :
    Option.Rel relation (if first then some left else none)
      (if second then some right else none) := by
  by_cases holds : first
  · rw [if_pos holds, if_pos (same.mp holds)]
    exact .some (related holds)
  · rw [if_neg holds, if_neg (fun other => holds (same.mpr other))]
    exact .none

theorem FieldList.alike_insert_null {optional : List String} {before after : FieldList}
    {name : String} (mayBeAbsent : name ∈ optional)
    (absent : name ∉ (before ++ after).map Prod.fst) :
    FieldList.Alike optional (before ++ after) (before ++ (name, .null) :: after) := by
  have inFront : name ∉ before.map Prod.fst := by
    rw [List.map_append] at absent
    exact fun listed => absent (List.mem_append_left _ listed)
  have others (wanted : String) (different : wanted ≠ name) :
      (before ++ after).lookup wanted = (before ++ (name, .null) :: after).lookup wanted := by
    rw [List.lookup_append, List.lookup_append, lookup_entry_cons, if_neg different]
  constructor
  · intro wanted isNeeded
    exact others wanted (fun same => isNeeded (same ▸ mayBeAbsent))
  · intro wanted
    by_cases same : wanted = name
    · subst same
      right
      rw [List.lookup_append, List.lookup_append, lookup_entry_cons, if_pos rfl,
        ← List.lookup_append, lookup_eq_none_of_not_mem absent, lookup_eq_none_of_not_mem inFront]
      exact ⟨rfl, rfl⟩
    · exact Or.inl (others wanted same)

theorem Respelled.record? {known optional : List String} {left right : MemberList}
    (respelled : Respelled known optional left right) (areKnown : ∀ name ∈ optional, name ∈ known)
    (needed : Nat) :
    Option.Rel (FieldList.Alike optional) ((object left).record? known needed)
      ((object right).record? known needed) := by
  rw [record?_object, record?_object]
  cases respelled with
  | reordered same =>
      have readable : allReadable left = allReadable right := same.all_eq
      have kept : (knownFields known left).Perm (knownFields known right) := same.filterMap _
      apply rel_ite_of_iff
      · rw [readable, (kept.map Prod.fst).nodup_iff]
      · intro both
        have found := lookup_eq_of_perm both.2 kept
        exact ⟨fun name _ => found name, fun name => Or.inl (found name)⟩
  | unknownAdded unknown =>
      rw [allReadable_insert, knownFields_insert_unknown unknown]
      exact rel_ite_of_iff Iff.rfl fun _ => .refl _ _
  | unknownRemoved unknown =>
      rw [allReadable_insert, knownFields_insert_unknown unknown]
      exact rel_ite_of_iff Iff.rfl fun _ => .refl _ _
  | @nullWritten before after name mayBeAbsent absent =>
      have isKnown : name ∈ known := areKnown name mayBeAbsent
      have notListed :
          name ∉ (knownFields known before ++ knownFields known after).map Prod.fst := by
        rw [← knownFields_append, name_mem_knownFields_iff isKnown]
        intro written
        obtain ⟨value, member⟩ := written
        exact absent value member
      rw [allReadable_insert, knownFields_insert_known isKnown, knownFields_append]
      apply rel_ite_of_iff
      · rw [nodup_names_insert_iff, and_iff_right notListed]
      · intro _
        exact FieldList.alike_insert_null mayBeAbsent notListed

/-- A record that is spoiled is no record any more, or it lacks a needed field. -/
theorem Spoiled.record? {known needed : List String} {left right : MemberList}
    (spoiled : Spoiled known needed left right) (areKnown : ∀ name ∈ needed, name ∈ known)
    (count : Nat) {fields : FieldList}
    (isRecord : (object left).record? known count = some fields) :
    (object right).record? known count = none ∨
      ∃ others, (object right).record? known count = some others ∧
        ∃ name ∈ needed, others.lookup name = none := by
  rw [record?_object] at isRecord ⊢
  cases spoiled with
  | @repeated before after name value earlier isKnown written =>
      left
      apply if_neg
      intro both
      rw [knownFields_insert_known isKnown, nodup_names_insert_iff, ← knownFields_append,
        name_mem_knownFields_iff isKnown] at both
      exact both.2.1 ⟨earlier, written⟩
  | @removed before after name value isNeeded =>
      have isKnown : name ∈ known := areKnown name isNeeded
      obtain ⟨both, _⟩ := Option.ite_none_right_eq_some.mp isRecord
      rw [allReadable_insert, knownFields_insert_known isKnown, nodup_names_insert_iff,
        ← knownFields_append] at both
      obtain ⟨readable, absent, distinct⟩ := both
      right
      refine ⟨knownFields known (before ++ after), if_pos ⟨readable, distinct⟩, name, isNeeded, ?_⟩
      exact lookup_eq_none_of_not_mem absent

/-! ### Records that differ under one name -/

/-- One record is the other with something else under the name. -/
inductive Differ (names : List String) (name : String) (old new : Document) :
    Document → Document → Prop where
  | member {before after : MemberList} :
      Differ names name old new (.object (before ++ (some name, old) :: after))
        (.object (before ++ (some name, new) :: after))
  | item {before after : List Document} (placed : names[before.length]? = some name) :
      Differ names name old new (.array (before ++ old :: after)) (.array (before ++ new :: after))

structure FieldList.DifferAt (name : String) (old new : Document) (left right : FieldList) :
    Prop where
  inLeft : left.lookup name = some old
  inRight : right.lookup name = some new
  elsewhere : ∀ other, other ≠ name → left.lookup other = right.lookup other

theorem FieldList.differAt_of_not_mem {name : String} {before : FieldList}
    (absent : name ∉ before.map Prod.fst) (after : FieldList) (old new : Document) :
    FieldList.DifferAt name old new (before ++ (name, old) :: after)
      (before ++ (name, new) :: after) := by
  have found (document : Document) :
      (before ++ (name, document) :: after).lookup name = some document := by
    rw [List.lookup_append, lookup_eq_none_of_not_mem absent, lookup_entry_cons, if_pos rfl,
      Option.none_or]
  refine ⟨found old, found new, ?_⟩
  intro other different
  rw [List.lookup_append, List.lookup_append, lookup_entry_cons, lookup_entry_cons,
    if_neg different, if_neg different]

/-- The item at the place of a name stands under that name. -/
theorem zip_append_cons {names : List String} {name : String} {before : List Document}
    (placed : names[before.length]? = some name) (item : Document) (after : List Document) :
    names.zip (before ++ item :: after) =
      (names.take before.length).zip before ++
        (name, item) :: (names.drop (before.length + 1)).zip after := by
  obtain ⟨within, same⟩ := List.getElem?_eq_some_iff.mp placed
  have split : names = names.take before.length ++ name :: names.drop (before.length + 1) := by
    rw [← same, ← List.drop_eq_getElem_cons within, List.take_append_drop]
  have sameLength : (names.take before.length).length = before.length :=
    List.length_take_of_le (Nat.le_of_lt within)
  conv => lhs; rw [split]
  rw [List.zip_append sameLength, List.zip_cons_cons]

theorem Differ.record? {names : List String} {name : String} {old new left right : Document}
    (differ : Differ names name old new left right) (isKnown : name ∈ names)
    (distinct : names.Nodup) (needed : Nat) :
    Option.Rel (FieldList.DifferAt name old new) (left.record? names needed)
      (right.record? names needed) := by
  cases differ with
  | @member before after =>
      rw [record?_object, record?_object, allReadable_insert, allReadable_insert,
        knownFields_insert_known isKnown, knownFields_insert_known isKnown]
      apply rel_ite_of_iff
      · rw [nodup_names_insert_iff, nodup_names_insert_iff]
      · intro both
        have absent := ((nodup_names_insert_iff _ _ _ _).mp both.2).1
        rw [List.map_append] at absent
        exact FieldList.differAt_of_not_mem (fun listed => absent (List.mem_append_left _ listed))
          _ _ _
  | @item before after placed =>
      have earlierNames : ((names.take before.length).zip before).map Prod.fst =
          names.take before.length :=
        List.map_fst_zip (List.length_take_le _ _)
      have absent : name ∉ names.take before.length := by
        intro earlier
        obtain ⟨within, same⟩ := List.getElem?_eq_some_iff.mp placed
        rw [← List.take_append_drop before.length names, List.drop_eq_getElem_cons within, same,
          List.nodup_append] at distinct
        exact distinct.2.2 name earlier name List.mem_cons_self rfl
      simp only [Document.record?, zip_append_cons placed, List.length_append, List.length_cons]
      apply rel_ite_of_iff Iff.rfl
      intro _
      apply FieldList.differAt_of_not_mem
      rw [earlierNames]
      exact absent

end Json.Document

end KeyedQuery
