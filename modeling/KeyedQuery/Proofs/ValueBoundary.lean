import KeyedQuery.Proofs.CompactText

/-!
Where the text of a value ends.

A compact text has spaces and closing parentheses only inside quoted texts. So a reader that keeps
track of quotes and escapes alone, and stops at a space or a closing parenthesis outside of them,
stops behind the text of a value, whatever value it is. Two values with something like this behind
them are told apart before what follows is looked at.
-/

set_option autoImplicit false

namespace KeyedQuery.Json

/-! ### Reading to the end of a value -/

/-- Where a reader is that keeps track of quotes. -/
inductive Place where
  | outside
  | quoted
  /-- Inside a quoted text, behind a backslash. -/
  | escaped
deriving DecidableEq

def Place.next (place : Place) (character : Char) : Place :=
  match place with
  | .outside => if character = '"' then .quoted else .outside
  | .quoted => if character = '"' then .outside else if character = '\\' then .escaped else .quoted
  | .escaped => .quoted

/-- The rest of a text from the first space or closing parenthesis on that is outside of quotes. -/
def restBehind : Place → List Char → List Char
  | _, [] => []
  | place, head :: rest =>
      if place = .outside ∧ (head = ' ' ∨ head = ')') then head :: rest
      else restBehind (place.next head) rest

/-- The text ends, or goes on with what stands behind the text of a value. -/
def ClosesText (text : List Char) : Prop :=
  ∀ head ∈ text.head?, head = ' ' ∨ head = ')'

theorem ClosesText.nil : ClosesText [] :=
  fun _ first => nomatch first

theorem ClosesText.space (rest : List Char) : ClosesText (' ' :: rest) :=
  fun _ first => .inl (Option.some.inj first).symm

theorem ClosesText.parenthesis (rest : List Char) : ClosesText (')' :: rest) :=
  fun _ first => .inr (Option.some.inj first).symm

theorem ClosesText.restBehind_eq {text : List Char} (closes : ClosesText text) :
    restBehind .outside text = text := by
  cases text with
  | nil => rfl
  | cons head rest =>
      have stops : Place.outside = .outside ∧ (head = ' ' ∨ head = ')') := ⟨rfl, closes head rfl⟩
      rw [restBehind, if_pos stops]

/-- The reader goes over the text from one place to the other without stopping. -/
def GoesOver (start : Place) (text : List Char) (finish : Place) : Prop :=
  ∀ more, restBehind start (text ++ more) = restBehind finish more

namespace GoesOver

variable {start middle finish : Place} {text further : List Char}

theorem nil (place : Place) : GoesOver place [] place :=
  fun _ => rfl

theorem append (first : GoesOver start text middle) (second : GoesOver middle further finish) :
    GoesOver start (text ++ further) finish := by
  intro more
  rw [List.append_assoc, first, second]

theorem cons {head : Char} (goesOn : ¬ (start = .outside ∧ (head = ' ' ∨ head = ')')))
    (others : GoesOver (start.next head) text finish) : GoesOver start (head :: text) finish := by
  intro more
  rw [List.cons_append, restBehind, if_neg goesOn, others]

/-- Behind an opening quote nothing stops the reader. -/
theorem cons_inside {head : Char} (inside : start ≠ .outside)
    (others : GoesOver (start.next head) text finish) : GoesOver start (head :: text) finish :=
  cons (fun stops => inside stops.1) others

end GoesOver

/-! ### Texts without quotes -/

/-- The character neither opens a quoted text nor stops the reader. -/
def IsPlain (character : Char) : Prop :=
  character ≠ '"' ∧ character ≠ ' ' ∧ character ≠ ')'

instance (character : Char) : Decidable (IsPlain character) :=
  inferInstanceAs (Decidable (_ ∧ _))

def IsPlainText (text : List Char) : Prop :=
  ∀ character ∈ text, IsPlain character

instance (text : List Char) : Decidable (IsPlainText text) :=
  List.decidableBAll _ _

theorem goesOver_plain {text : List Char} (plain : IsPlainText text) :
    GoesOver .outside text .outside := by
  induction text with
  | nil => exact .nil .outside
  | cons head tail ih =>
      obtain ⟨⟨noQuote, noSpace, noParenthesis⟩, others⟩ := List.forall_mem_cons.mp plain
      have stays : Place.outside.next head = .outside := if_neg noQuote
      apply GoesOver.cons
      · exact fun stops => stops.2.elim noSpace noParenthesis
      · rw [stays]
        exact ih others

theorem isPlain_of_isDigit {character : Char} (digit : character.isDigit = true) :
    IsPlain character := by
  refine ⟨?_, ?_, ?_⟩
  all_goals
    rintro rfl
    cases digit

theorem isPlain_of_mem_number {number : Number} {character : Char}
    (member : character ∈ number.text.toList) : IsPlain character := by
  cases number with
  | whole value =>
      rcases Decimal.mem_integerText member with digit | rfl
      · exact isPlain_of_isDigit digit
      · decide
  | real value =>
      have marksArePlain : IsPlainText ['.', 'e', '+', '-'] := by decide
      rcases Number.layout.isWritten_floatText value character member with digit | mark
      · exact isPlain_of_isDigit digit
      · exact marksArePlain character mark

/-! ### Quoted texts -/

theorem goesOver_inside {text : List Char}
    (stays : ∀ character ∈ text, character ≠ '"' ∧ character ≠ '\\') :
    GoesOver .quoted text .quoted := by
  induction text with
  | nil => exact .nil .quoted
  | cons head tail ih =>
      obtain ⟨⟨noQuote, noBackslash⟩, others⟩ := List.forall_mem_cons.mp stays
      have atHead : Place.quoted.next head = .quoted := by
        change (if head = '"' then Place.outside
          else if head = '\\' then Place.escaped else .quoted) = .quoted
        rw [if_neg noQuote, if_neg noBackslash]
      apply GoesOver.cons_inside (by decide)
      rw [atHead]
      exact ih others

theorem goesOver_escape (letter : Char) : GoesOver .quoted ['\\', letter] .quoted :=
  .cons_inside (by decide) (.cons_inside (by decide) (.nil .quoted))

theorem hexDigit_ne {value : Nat} (small : value < 16) :
    hexDigit value ≠ '"' ∧ hexDigit value ≠ '\\' := by
  have checked : ∀ digit : Fin 16, hexDigit digit.val ≠ '"' ∧ hexDigit digit.val ≠ '\\' := by
    decide
  exact checked ⟨value, small⟩

theorem goesOver_escapeChar (character : Char) :
    GoesOver .quoted (escapeChar character) .quoted := by
  unfold escapeChar
  cases escaped : escapeLetter? character with
  | some letter => exact goesOver_escape letter
  | none =>
      dsimp only
      by_cases control : character.toNat < 0x20
      · rw [if_pos control]
        apply (goesOver_escape 'u').append
        apply goesOver_inside
        have high := hexDigit_ne (by omega : character.toNat / 16 < 16)
        have low := hexDigit_ne (by omega : character.toNat % 16 < 16)
        simp [high, low]
      · rw [if_neg control]
        apply goesOver_inside
        rw [List.forall_mem_singleton]
        exact plain_of_escapeLetter?_eq_none escaped

theorem goesOver_quote (text : String) : GoesOver .outside (quote text).toList .outside := by
  have inside : GoesOver .quoted (text.toList.flatMap escapeChar) .quoted := by
    induction text.toList with
    | nil => exact .nil .quoted
    | cons head tail ih =>
        rw [List.flatMap_cons]
        exact (goesOver_escapeChar head).append ih
  have closing : GoesOver .quoted ['"'] .outside := .cons_inside (by decide) (.nil .outside)
  unfold quote
  rw [String.toList_ofList, List.cons_append]
  exact .cons (by decide) (inside.append closing)

/-! ### Values -/

theorem goesOver_commaText {texts : List String}
    (each : ∀ text ∈ texts, GoesOver .outside text.toList .outside) :
    GoesOver .outside (commaText texts) .outside := by
  have comma : GoesOver .outside [','] .outside := goesOver_plain (by decide)
  induction texts with
  | nil => exact .nil .outside
  | cons first others ih =>
      obtain ⟨overFirst, overOthers⟩ := List.forall_mem_cons.mp each
      cases others with
      | nil =>
          rw [commaText_singleton]
          exact overFirst
      | cons second rest =>
          rw [commaText_cons_cons]
          exact overFirst.append (comma.append (ih overOthers))

theorem goesOver_bracketed {texts : List String} {opening closing : Char}
    (plain : IsPlain opening ∧ IsPlain closing)
    (each : ∀ text ∈ texts, GoesOver .outside text.toList .outside) :
    GoesOver .outside (opening :: (commaText texts ++ [closing])) .outside := by
  have atOpening : GoesOver .outside [opening] .outside :=
    goesOver_plain (List.forall_mem_singleton.mpr plain.1)
  have atClosing : GoesOver .outside [closing] .outside :=
    goesOver_plain (List.forall_mem_singleton.mpr plain.2)
  exact atOpening.append ((goesOver_commaText each).append atClosing)

mutual

theorem goesOver_compact (json : Json) : GoesOver .outside json.compact.toList .outside := by
  match json with
  | .null => exact goesOver_plain (by decide)
  | .bool true => exact goesOver_plain (by decide)
  | .bool false => exact goesOver_plain (by decide)
  | .number value => exact goesOver_plain fun _ member => isPlain_of_mem_number member
  | .string text => exact goesOver_quote text
  | .array items =>
      rw [toList_compact_array]
      exact goesOver_bracketed (by decide) (goesOver_compactItems items)
  | .object members =>
      rw [toList_compact_object]
      exact goesOver_bracketed (by decide) (goesOver_compactMembers members)

theorem goesOver_compactItems (items : List Json) :
    ∀ text ∈ compactItems items, GoesOver .outside text.toList .outside := by
  match items with
  | [] => exact fun _ member => nomatch member
  | item :: rest =>
      rw [compactItems, List.forall_mem_cons]
      exact ⟨goesOver_compact item, goesOver_compactItems rest⟩

theorem goesOver_compactMembers (members : List (String × Json)) :
    ∀ text ∈ compactMembers members, GoesOver .outside text.toList .outside := by
  match members with
  | [] => exact fun _ member => nomatch member
  | (key, value) :: rest =>
      have colon : GoesOver .outside [':'] .outside := goesOver_plain (by decide)
      rw [compactMembers, List.forall_mem_cons, String.toList_append, String.toList_append]
      exact ⟨((goesOver_quote key).append colon).append (goesOver_compact value),
        goesOver_compactMembers rest⟩

end

/-! ### Telling texts apart -/

/-- Texts that the reader goes over are told from what follows them. -/
theorem append_inj_of_goesOver {left right leftRest rightRest : List Char}
    (overLeft : GoesOver .outside left .outside) (overRight : GoesOver .outside right .outside)
    (leftCloses : ClosesText leftRest) (rightCloses : ClosesText rightRest)
    (same : left ++ leftRest = right ++ rightRest) : left = right ∧ leftRest = rightRest := by
  have sameRest : leftRest = rightRest :=
    calc leftRest
      _ = restBehind .outside (left ++ leftRest) := by rw [overLeft, leftCloses.restBehind_eq]
      _ = restBehind .outside (right ++ rightRest) := by rw [same]
      _ = rightRest := by rw [overRight, rightCloses.restBehind_eq]
  rw [sameRest] at same
  exact ⟨List.append_cancel_right same, sameRest⟩

end KeyedQuery.Json
