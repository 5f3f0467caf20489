import KeyedQuery.Json.Printer
import KeyedQuery.Proofs.ValueText

/-!
The compact text of a value is read back.

What is read is the document of the value, with the members in the order in which they were
written. This holds of every value that is nested no deeper than the reader goes and whose numbers
are read back from their own texts, as integers within the range of 64-bit words are.
-/

set_option autoImplicit false

namespace KeyedQuery.Json

mutual

/-- The number of levels of arrays and objects that a value is made of. -/
def nesting : Json → Nat
  | .array items => nestingOfItems items + 1
  | .object members => nestingOfMembers members + 1
  | _ => 0

def nestingOfItems : List Json → Nat
  | [] => 0
  | item :: rest => max (nesting item) (nestingOfItems rest)

def nestingOfMembers : List (String × Json) → Nat
  | [] => 0
  | (_, value) :: rest => max (nesting value) (nestingOfMembers rest)

end

mutual

/-- Every number inside the value is read back from its own text. -/
def NumbersReadBack : Json → Prop
  | .number value => value.ReadsBack
  | .array items => NumbersOfItemsReadBack items
  | .object members => NumbersOfMembersReadBack members
  | _ => True

def NumbersOfItemsReadBack : List Json → Prop
  | [] => True
  | item :: rest => NumbersReadBack item ∧ NumbersOfItemsReadBack rest

def NumbersOfMembersReadBack : List (String × Json) → Prop
  | [] => True
  | (_, value) :: rest => NumbersReadBack value ∧ NumbersOfMembersReadBack rest

end

theorem isSpace_of_beginsNumeral {head : Char} (begins : beginsNumeral head = true) :
    isSpace head = false := by
  apply Bool.eq_false_iff.mpr
  intro space
  simp only [isSpace, Bool.or_eq_true, decide_eq_true_eq] at space
  rcases space with ((rfl | rfl) | rfl) | rfl <;> cases begins

theorem Number.readsBack_whole {value : Int} (least : -Int.ofNat Word.signedBound ≤ value)
    (greatest : value < Int.ofNat Word.unsignedBound) : (Number.whole value).ReadsBack := by
  obtain ⟨head, tail, numeral, written, begins, reads, isValue⟩ :=
    isNumeralOf_integerText least greatest
  have noSpace : isSpace head = false := isSpace_of_beginsNumeral begins
  have leading : skipSpaces (Number.whole value).text.toList = head :: tail := by
    unfold Number.text
    rw [written, skipSpaces_cons noSpace]
  apply Document.ofText?_eq_some_iff.mpr
  obtain ⟨after, isRead, left⟩ := Document.reads_numeral leading begins reads
  unfold Document.ofNumeral at isRead
  rw [isValue] at isRead
  refine ⟨after, isRead, ?_⟩
  rw [left]
  rfl

/-! ### Texts joined by commas -/

/-- The texts one after another, with a comma between any two. -/
def commaText (texts : List String) : List Char :=
  (String.intercalate "," texts).toList

theorem commaText_singleton (text : String) : commaText [text] = text.toList := by
  unfold commaText
  rw [String.toList_intercalate]
  simp

theorem commaText_cons_cons (first second : String) (rest : List String) :
    commaText (first :: second :: rest) = first.toList ++ ',' :: commaText (second :: rest) := by
  unfold commaText
  rw [String.toList_intercalate, String.toList_intercalate]
  simp

theorem toList_compact_array (items : List Json) :
    (compact (.array items)).toList = '[' :: (commaText (compactItems items) ++ [']']) := by
  unfold compact commaText
  rw [String.toList_append, String.toList_append]
  rfl

theorem toList_compact_object (members : List (String × Json)) :
    (compact (.object members)).toList = '{' :: (commaText (compactMembers members) ++ ['}']) := by
  unfold compact commaText
  rw [String.toList_append, String.toList_append]
  rfl

theorem compactMembers_eq_map (members : List (String × Json)) :
    compactMembers members =
      members.map fun member => quote member.1 ++ ":" ++ compact member.2 := by
  induction members with
  | nil => rfl
  | cons head tail ih => rw [compactMembers, ih, List.map_cons]

theorem Document.ofMembers_eq_map (members : List (String × Json)) :
    Document.ofMembers members =
      members.map fun member => (some member.1, Document.ofValue member.2) := by
  induction members with
  | nil => rfl
  | cons head tail ih => rw [Document.ofMembers, ih, List.map_cons]

theorem toList_member (key : String) (text : String) (more : List Char) :
    (quote key ++ ":" ++ text).toList ++ more =
      '"' :: (key.toList.flatMap escapeChar ++ '"' :: ':' :: (text.toList ++ more)) := by
  rw [String.toList_append, String.toList_append, List.append_assoc, List.append_assoc,
    quote_eq_cons]
  rfl

/-! ### Reading the text -/

theorem exists_room {levels room : Nat} (within : levels + 1 ≤ room) :
    ∃ inner, room = inner + 1 ∧ levels ≤ inner :=
  ⟨room - 1, by omega, by omega⟩

section

open Document (ReadsValue readValue readItems readMembers ofValue ofItems)

mutual

theorem readsValue_compact (json : Json) {room : Nat} {more : List Char}
    (within : json.nesting ≤ room) (numbers : json.NumbersReadBack) (ends : EndsValue more) :
    ReadsValue room (json.compact.toList ++ more) (ofValue json) more := by
  match json with
  | .null => exact .of_reads ends (Document.reads_null room more)
  | .bool true => exact .of_reads ends (Document.reads_true room more)
  | .bool false => exact .of_reads ends (Document.reads_false room more)
  | .number value => exact Document.readsValue_number numbers room ends
  | .string text =>
      unfold compact
      rw [quote_eq_cons]
      exact .of_reads ends (Document.reads_string room text more)
  | .array items =>
      obtain ⟨inner, rfl, withinItems⟩ := exists_room within
      rw [toList_compact_array, List.cons_append, List.append_assoc, List.singleton_append]
      apply ReadsValue.of_reads ends
      apply Document.reads_array
      match items with
      | [] => exact Document.reads_array_empty inner more
      | item :: rest =>
          exact Document.reads_array_items
            (readsItems_compact (item :: rest) (by simp) withinItems numbers)
  | .object members =>
      obtain ⟨inner, rfl, withinMembers⟩ := exists_room within
      rw [toList_compact_object, List.cons_append, List.append_assoc, List.singleton_append]
      apply ReadsValue.of_reads ends
      apply Document.reads_object
      match members with
      | [] => exact Document.reads_object_empty inner more
      | member :: rest =>
          exact Document.reads_object_members
            (readsMembers_compact (member :: rest) (by simp) withinMembers numbers)

theorem readsItems_compact (items : List Json) {room : Nat} {more : List Char}
    (present : items ≠ []) (within : nestingOfItems items ≤ room)
    (numbers : NumbersOfItemsReadBack items) :
    Reads (readItems room (commaText (compactItems items) ++ ']' :: more)) (ofItems items)
      more := by
  match items with
  | [] => exact absurd rfl present
  | [item] =>
      have withinItem : item.nesting ≤ room := Nat.le_trans (Nat.le_max_left _ _) within
      simp only [compactItems, ofItems]
      rw [commaText_singleton]
      exact Document.reads_last_item (readsValue_compact item withinItem numbers.1 (.bracket more))
  | item :: next :: others =>
      have withinItem : item.nesting ≤ room := Nat.le_trans (Nat.le_max_left _ _) within
      have withinOthers : nestingOfItems (next :: others) ≤ room :=
        Nat.le_trans (Nat.le_max_right _ _) within
      have readsOthers : Reads (readItems room (commaText (compactItems (next :: others)) ++
          ']' :: more)) (ofItems (next :: others)) more :=
        readsItems_compact (next :: others) (by simp) withinOthers numbers.2
      simp only [compactItems, ofItems] at readsOthers ⊢
      rw [commaText_cons_cons, List.append_assoc, List.cons_append]
      exact Document.reads_more_items (readsValue_compact item withinItem numbers.1 (.comma _))
        readsOthers

theorem readsMembers_compact (members : List (String × Json)) {room : Nat} {more : List Char}
    (present : members ≠ []) (within : nestingOfMembers members ≤ room)
    (numbers : NumbersOfMembersReadBack members) :
    Reads (readMembers room (commaText (compactMembers members) ++ '}' :: more))
      (Document.ofMembers members) more := by
  match members with
  | [] => exact absurd rfl present
  | [(key, value)] =>
      have withinValue : value.nesting ≤ room := Nat.le_trans (Nat.le_max_left _ _) within
      simp only [compactMembers, Document.ofMembers]
      rw [commaText_singleton, toList_member]
      exact Document.reads_last_member (Document.reads_key key _)
        (readsValue_compact value withinValue numbers.1 (.brace more))
  | (key, value) :: (nextKey, nextValue) :: others =>
      have withinValue : value.nesting ≤ room := Nat.le_trans (Nat.le_max_left _ _) within
      have withinOthers : nestingOfMembers ((nextKey, nextValue) :: others) ≤ room :=
        Nat.le_trans (Nat.le_max_right _ _) within
      have readsOthers : Reads (readMembers room
          (commaText (compactMembers ((nextKey, nextValue) :: others)) ++ '}' :: more))
          (Document.ofMembers ((nextKey, nextValue) :: others)) more :=
        readsMembers_compact ((nextKey, nextValue) :: others) (by simp) withinOthers numbers.2
      simp only [compactMembers, Document.ofMembers] at readsOthers ⊢
      rw [commaText_cons_cons, List.append_assoc, List.cons_append, toList_member]
      exact Document.reads_more_members (Document.reads_key key _)
        (readsValue_compact value withinValue numbers.1 (.comma _)) readsOthers

end

end

/-- The value is canonical, it is nested no deeper than there is room for, and its numbers are read
back. -/
structure Legible (room : Nat) (json : Json) : Prop where
  canonical : json.Canonical
  within : json.nesting ≤ room
  numbers : json.NumbersReadBack

theorem ofText?_compact {json : Json} (legible : json.Legible Document.nestingLimit) :
    Document.ofText? json.compact = some (.ofValue json) := by
  apply Document.ofText?_eq_some_iff.mpr
  have reads := readsValue_compact json legible.within legible.numbers .nil
  rw [List.append_nil] at reads
  exact reads

/-! ### Legible values -/

namespace Legible

theorem mono {room larger : Nat} {json : Json} (legible : json.Legible room)
    (fits : room ≤ larger) : json.Legible larger :=
  ⟨legible.canonical, Nat.le_trans legible.within fits, legible.numbers⟩

variable (room : Nat)

@[simp] theorem null : Json.null.Legible room :=
  ⟨trivial, Nat.zero_le _, trivial⟩

@[simp] theorem bool (value : Bool) : (Json.bool value).Legible room :=
  ⟨trivial, Nat.zero_le _, trivial⟩

@[simp] theorem string (text : String) : (Json.string text).Legible room :=
  ⟨trivial, Nat.zero_le _, trivial⟩

theorem ofInt {value : Int} (least : -Int.ofNat Word.signedBound ≤ value)
    (greatest : value < Int.ofNat Word.unsignedBound) : (Json.ofInt value).Legible room :=
  ⟨trivial, Nat.zero_le _, Number.readsBack_whole least greatest⟩

theorem array {room : Nat} {items : List Json} (each : ∀ item ∈ items, item.Legible room) :
    (Json.array items).Legible (room + 1) := by
  have inside : CanonicalItems items ∧ nestingOfItems items ≤ room ∧
      NumbersOfItemsReadBack items := by
    induction items with
    | nil => exact ⟨trivial, Nat.zero_le _, trivial⟩
    | cons head tail ih =>
        rw [List.forall_mem_cons] at each
        obtain ⟨canonicalTail, withinTail, numbersTail⟩ := ih each.2
        exact ⟨⟨each.1.canonical, canonicalTail⟩, Nat.max_le.mpr ⟨each.1.within, withinTail⟩,
          each.1.numbers, numbersTail⟩
  exact ⟨inside.1, Nat.succ_le_succ inside.2.1, inside.2.2⟩

theorem array_map {Item : Type} {room : Nat} {write : Item → Json} {items : List Item}
    (each : ∀ item ∈ items, (write item).Legible room) :
    (Json.array (items.map write)).Legible (room + 1) := by
  apply array
  rw [List.forall_mem_map]
  exact each

theorem members {room : Nat} {members : List (String × Json)}
    (each : ∀ member ∈ members, member.2.Legible room) :
    CanonicalMembers members ∧ nestingOfMembers members ≤ room ∧
      NumbersOfMembersReadBack members := by
  induction members with
  | nil => exact ⟨trivial, Nat.zero_le _, trivial⟩
  | cons head tail ih =>
      rw [List.forall_mem_cons] at each
      obtain ⟨canonicalTail, withinTail, numbersTail⟩ := ih each.2
      exact ⟨⟨each.1.canonical, canonicalTail⟩, Nat.max_le.mpr ⟨each.1.within, withinTail⟩,
        each.1.numbers, numbersTail⟩

theorem object {room : Nat} {members : List (String × Json)} (ascend : KeysAscend members)
    (each : ∀ member ∈ members, member.2.Legible room) :
    (Json.object members).Legible (room + 1) := by
  obtain ⟨canonical, within, numbers⟩ := Legible.members each
  exact ⟨⟨ascend, canonical⟩, Nat.succ_le_succ within, numbers⟩

end Legible

end KeyedQuery.Json
