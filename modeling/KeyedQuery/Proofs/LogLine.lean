import Mathlib.Data.List.Nodup
import KeyedQuery.Log.Entry
import KeyedQuery.Proofs.CompactText

/-!
Log lines as JSON texts.

Whatever is logged, a line has one end and no control character before it, and it is read back as an
object with the members that were written, in their order. So the line of fields with distinct keys
does not depend on the order in which they are given, and it determines the fields.
-/

set_option autoImplicit false

namespace KeyedQuery.Log

open Json (quote escapeChar commaText Document)

/-! ### The order of the fields -/

/-- The fields in the order of their keys, which is that of code points. Fields with one key keep
the order that they had. -/
structure StablySorted (fields sorted : List (String × String)) : Prop where
  perm : sorted.Perm fields
  ascend : sorted.Pairwise fun earlier later => earlier.1 ≤ later.1
  stable : ∀ key, (sorted.filter fun field => field.1 = key) =
    fields.filter fun field => field.1 = key

def keyAtMost (earlier later : String × String) : Bool :=
  decide (earlier.1 ≤ later.1)

theorem keyAtMost_trans (first second third : String × String)
    (before : keyAtMost first second = true) (behind : keyAtMost second third = true) :
    keyAtMost first third = true :=
  decide_eq_true (String.le_trans (of_decide_eq_true before) (of_decide_eq_true behind))

theorem keyAtMost_total (left right : String × String) :
    (keyAtMost left right || keyAtMost right left) = true := by
  rw [Bool.or_eq_true]
  exact (String.le_total left.1 right.1).imp decide_eq_true decide_eq_true

namespace Entry

/-- The fields with one key are in order already, and sorting leaves such a row as it is. -/
theorem filter_sortedFields (entry : Entry) (key : String) :
    (entry.sortedFields.filter fun field => field.1 = key) =
      entry.fields.filter fun field => field.1 = key := by
  have inOrder : (entry.fields.filter fun field => field.1 = key).Pairwise
      fun earlier later => keyAtMost earlier later = true := by
    apply List.pairwise_filter.mpr
    apply List.pairwise_of_forall
    intro earlier later isEarlier isLater
    have sameKey : earlier.1 = later.1 :=
      (of_decide_eq_true isEarlier).trans (of_decide_eq_true isLater).symm
    exact decide_eq_true (sameKey ▸ String.le_refl _)
  have kept : (entry.fields.filter fun field => field.1 = key).Sublist entry.sortedFields :=
    List.sublist_mergeSort keyAtMost_trans keyAtMost_total inOrder List.filter_sublist
  have keptAlone := kept.filter fun field => field.1 = key
  rw [List.filter_filter] at keptAlone
  simp only [Bool.and_self] at keptAlone
  have sameLength :=
    ((List.mergeSort_perm entry.fields keyAtMost).filter fun field => field.1 = key).length_eq
  exact (keptAlone.eq_of_length sameLength.symm).symm

theorem stablySorted_sortedFields (entry : Entry) :
    StablySorted entry.fields entry.sortedFields where
  perm := List.mergeSort_perm entry.fields keyAtMost
  ascend := by
    have sorted := List.pairwise_mergeSort keyAtMost_trans keyAtMost_total entry.fields
    exact sorted.imp fun atMost => of_decide_eq_true atMost
  stable := entry.filter_sortedFields

end Entry

/-! ### Control characters -/

/-- No character is a control character below U+0020. -/
def Visible (text : List Char) : Prop :=
  ∀ character ∈ text, 0x20 ≤ character.toNat

instance (text : List Char) : Decidable (Visible text) :=
  List.decidableBAll (fun character : Char => 0x20 ≤ character.toNat) text

theorem Visible.nil : Visible [] :=
  fun _ member => nomatch member

theorem Visible.append {left right : List Char} (leftVisible : Visible left)
    (rightVisible : Visible right) : Visible (left ++ right) :=
  List.forall_mem_append.mpr ⟨leftVisible, rightVisible⟩

theorem Visible.cons {head : Char} {tail : List Char} (headVisible : 0x20 ≤ head.toNat)
    (tailVisible : Visible tail) : Visible (head :: tail) :=
  List.forall_mem_cons.mpr ⟨headVisible, tailVisible⟩

theorem visible_escapeLetter {character letter : Char}
    (escaped : Json.escapeLetter? character = some letter) : Visible ['\\', letter] := by
  unfold Json.escapeLetter? at escaped
  repeat' split at escaped
  all_goals cases escaped
  all_goals decide

theorem visible_hexDigit {value : Nat} (small : value < 16) :
    0x20 ≤ (Json.hexDigit value).toNat := by
  have checked : ∀ digit : Fin 16, 0x20 ≤ (Json.hexDigit digit.val).toNat := by decide
  exact checked ⟨value, small⟩

theorem visible_escapeChar (character : Char) : Visible (escapeChar character) := by
  unfold escapeChar
  cases escaped : Json.escapeLetter? character with
  | some letter => exact visible_escapeLetter escaped
  | none =>
      dsimp only
      by_cases control : character.toNat < 0x20
      · rw [if_pos control]
        have leading : Visible ['\\', 'u', '0', '0'] := by decide
        have high := visible_hexDigit (by omega : character.toNat / 16 < 16)
        have low := visible_hexDigit (by omega : character.toNat % 16 < 16)
        exact leading.append (.cons high (.cons low .nil))
      · rw [if_neg control]
        exact .cons (Nat.le_of_not_lt control) .nil

theorem visible_quote (text : String) : Visible (quote text).toList := by
  have inside : Visible (text.toList.flatMap escapeChar) := by
    intro character member
    obtain ⟨source, _, escaped⟩ := List.mem_flatMap.mp member
    exact visible_escapeChar source character escaped
  have mark : Visible ['"'] := by decide
  unfold quote
  rw [String.toList_ofList]
  exact mark.append (inside.append mark)

theorem visible_memberText (member : String × String) :
    Visible (Entry.memberText member).toList := by
  have colon : Visible [':'] := by decide
  unfold Entry.memberText
  rw [String.toList_append, String.toList_append]
  exact ((visible_quote member.1).append colon).append (visible_quote member.2)

theorem visible_commaText {texts : List String}
    (each : ∀ text ∈ texts, Visible text.toList) : Visible (commaText texts) := by
  induction texts with
  | nil => decide
  | cons first others ih =>
      obtain ⟨firstVisible, othersVisible⟩ := List.forall_mem_cons.mp each
      cases others with
      | nil =>
          rw [Json.commaText_singleton]
          exact firstVisible
      | cons second rest =>
          rw [Json.commaText_cons_cons]
          exact firstVisible.append (.cons (by decide) (ih othersVisible))

/-! ### Reading a line -/

/-- The members of an object whose values are texts. -/
def textMembers (members : List (String × String)) : List (String × Json) :=
  members.map fun member => (member.1, .string member.2)

theorem compactMembers_textMembers (members : List (String × String)) :
    Json.compactMembers (textMembers members) = members.map Entry.memberText := by
  rw [Json.compactMembers_eq_map, textMembers, List.map_map]
  rfl

theorem ofMembers_textMembers (members : List (String × String)) :
    Document.ofMembers (textMembers members) =
      members.map fun member => (some member.1, .string member.2) := by
  rw [Document.ofMembers_eq_map, textMembers, List.map_map]
  rfl

namespace Entry

variable (entry : Entry)

theorem toList_line :
    entry.line.toList = '{' :: (commaText (entry.members.map memberText) ++ ['}', '\n']) := by
  unfold line commaText
  rw [String.toList_append, String.toList_append]
  rfl

theorem ofText?_line :
    Document.ofText? entry.line =
      some (.object (entry.members.map fun member => (some member.1, .string member.2))) := by
  apply Document.ofText?_eq_some_iff.mpr
  have present : textMembers entry.members ≠ [] := by
    intro none
    cases none
  have each : ∀ member ∈ textMembers entry.members, member.2.Legible 126 :=
    List.forall_mem_map.mpr fun member _ => .string 126 member.2
  obtain ⟨_, within, numbers⟩ := Json.Legible.members each
  have readsMembers : Json.Reads
      (Document.readMembers 126 (commaText (entry.members.map memberText) ++ ['}', '\n']))
      (entry.members.map fun member => (some member.1, .string member.2)) ['\n'] := by
    rw [← compactMembers_textMembers, ← ofMembers_textMembers]
    exact Json.readsMembers_compact _ present within numbers
  obtain ⟨after, isRead, left⟩ :=
    Document.reads_object (Document.reads_object_members readsMembers)
  rw [toList_line]
  refine ⟨after, isRead, ?_⟩
  rw [left]
  rfl

/-- Everything before the end of the line is visible. -/
theorem exists_visible_body :
    ∃ body : String, entry.line = body ++ "\n" ∧ Visible body.toList := by
  refine ⟨String.ofList ('{' :: (commaText (entry.members.map memberText) ++ ['}'])), ?_, ?_⟩
  · rw [← String.toList_inj, toList_line, String.toList_append, String.toList_ofList,
      List.cons_append, List.append_assoc]
    rfl
  · have membersVisible : Visible (commaText (entry.members.map memberText)) := by
      apply visible_commaText
      rw [List.forall_mem_map]
      exact fun member _ => visible_memberText member
    have brace : Visible ['}'] := by decide
    rw [String.toList_ofList]
    exact .cons (by decide) (membersVisible.append brace)

/-! ### Two lines -/

variable {left right : Entry}

/-- Distinct keys have one order only. -/
theorem sortedFields_eq_of_perm (distinct : (left.fields.map Prod.fst).Nodup)
    (reordered : left.fields.Perm right.fields) : left.sortedFields = right.sortedFields := by
  have sortedLeft := left.stablySorted_sortedFields
  have sortedRight := right.stablySorted_sortedFields
  have samePerm := (sortedLeft.perm.trans reordered).trans sortedRight.perm.symm
  refine samePerm.eq_of_pairwise ?_ sortedLeft.ascend sortedRight.ascend
  intro field other inLeft inRight fieldFirst otherFirst
  have sameKey : field.1 = other.1 := String.le_antisymm fieldFirst otherFirst
  have inFields : field ∈ left.fields := sortedLeft.perm.mem_iff.mp inLeft
  have alsoInFields : other ∈ left.fields :=
    sortedLeft.perm.mem_iff.mp (samePerm.mem_iff.mpr inRight)
  exact List.inj_on_of_nodup_map distinct inFields alsoInFields sameKey

theorem line_eq_of_members_eq (same : left.members = right.members) : left.line = right.line := by
  unfold line
  rw [same]

/-- A line is read as its members, so it has no others. -/
theorem members_eq_of_line_eq (same : left.line = right.line) : left.members = right.members := by
  have sameDocument := congrArg Document.ofText? same
  rw [ofText?_line, ofText?_line] at sameDocument
  apply (List.map_inj_right _).mp (Document.object.inj (Option.some.inj sameDocument))
  intro member other sameMember
  obtain ⟨sameKey, sameText⟩ := Prod.mk.inj sameMember
  exact Prod.ext (Option.some.inj sameKey) (Document.string.inj sameText)

theorem perm_of_line_eq (same : left.line = right.line) : left.fields.Perm right.fields := by
  have sameMembers := members_eq_of_line_eq same
  have sameSorted : left.sortedFields = right.sortedFields :=
    (List.cons.inj (List.cons.inj sameMembers).2).2
  have sortedLeft := left.stablySorted_sortedFields
  rw [sameSorted] at sortedLeft
  exact sortedLeft.perm.symm.trans right.stablySorted_sortedFields.perm

end Entry

/-- A line ends where it should and nowhere before, and it is read back as an object of the event,
the severity and the fields stably sorted by their keys, each with the very text that was given. -/
theorem line_is_faithful (entry : Entry) :
    (∃ body : String, entry.line = body ++ "\n" ∧
      ∀ character ∈ body.toList, 0x20 ≤ character.toNat) ∧
      ∃ sorted, StablySorted entry.fields sorted ∧
        Document.ofText? entry.line = some (.object
          ((("event", entry.event) :: ("severity", entry.severity.name) :: sorted).map
            fun member => (some member.1, .string member.2))) :=
  ⟨entry.exists_visible_body, entry.sortedFields, entry.stablySorted_sortedFields,
    entry.ofText?_line⟩

/-- Of one event, fields with distinct keys are written as one line exactly if they are the same
fields in some order. -/
theorem same_line_iff_perm (severity : Severity) (event : String)
    {left right : List (String × String)} (distinct : (left.map Prod.fst).Nodup) :
    (Entry.mk severity event left).line = (Entry.mk severity event right).line ↔
      left.Perm right := by
  constructor
  · exact Entry.perm_of_line_eq
  · intro reordered
    have sameSorted : (Entry.mk severity event left).sortedFields =
        (Entry.mk severity event right).sortedFields :=
      Entry.sortedFields_eq_of_perm distinct reordered
    apply Entry.line_eq_of_members_eq
    unfold Entry.members
    rw [sameSorted]

/-- Quotes and line breaks in the fields are told apart from those of the line, and only the order
in which the fields are given does not show. -/
theorem quoted_fields_in_two_orders :
    let fields : List (String × String) := [("text", "say \"hi\"\n"), ("a\",\"b", "1")]
    let merged : List (String × String) := [("text", "say \"hi\"\n\",\"a"), ("b", "1")]
    (fields.map Prod.fst).Nodup ∧
      (Entry.mk .info "TEST" fields).line = (Entry.mk .info "TEST" fields.reverse).line ∧
      (Entry.mk .info "TEST" fields).line ≠ (Entry.mk .info "TEST" merged).line := by
  intro fields merged
  have distinct : (fields.map Prod.fst).Nodup := by decide
  refine ⟨distinct, (same_line_iff_perm .info "TEST" distinct).mpr (by decide), ?_⟩
  intro same
  exact absurd ((same_line_iff_perm .info "TEST" distinct).mp same) (by decide)

end KeyedQuery.Log
