import KeyedQuery.Proofs.NumeralText

/-!
Values are read to their end.

In the middle of a text a value is followed by a comma or by a closing bracket, which belongs to no
value. What is read of a word, a quoted text or a numeral does not depend on what follows. An array
or an object is read item by item, and the levels inside it are one fewer.
-/

set_option autoImplicit false

namespace KeyedQuery.Json

def Number.ReadsBack (number : Number) : Prop :=
  Document.ofText? number.text = some (.number number)

/-! ### Between values -/

/-- The text ends, or goes on with what stands behind a value. -/
def EndsValue (text : List Char) : Prop :=
  ∀ head ∈ text.head?, head = ',' ∨ head = ']' ∨ head = '}'

theorem EndsValue.nil : EndsValue [] :=
  fun _ first => nomatch first

theorem EndsValue.comma (rest : List Char) : EndsValue (',' :: rest) :=
  fun _ first => .inl (Option.some.inj first).symm

theorem EndsValue.bracket (rest : List Char) : EndsValue (']' :: rest) :=
  fun _ first => .inr (.inl (Option.some.inj first).symm)

theorem EndsValue.brace (rest : List Char) : EndsValue ('}' :: rest) :=
  fun _ first => .inr (.inr (Option.some.inj first).symm)

theorem EndsValue.endsNumeral {text : List Char} (ends : EndsValue text) : EndsNumeral text := by
  intro head first
  rcases ends head first with rfl | rfl | rfl <;> decide

theorem EndsValue.noSpace {text : List Char} (ends : EndsValue text) :
    ∀ head ∈ text.head?, isSpace head = false := by
  intro head first
  rcases ends head first with rfl | rfl | rfl <;> decide

theorem EndsValue.skipSpaces_append {more : List Char} (ends : EndsValue more) (text : List Char) :
    skipSpaces (text ++ more) = skipSpaces text ++ more :=
  dropWhile_append_of_stop ends.noSpace text

theorem EndsValue.skipSpaces_eq {text : List Char} (ends : EndsValue text) :
    skipSpaces text = text := by
  have alone := ends.skipSpaces_append []
  rw [List.nil_append] at alone
  exact alone

theorem skipSpaces_cons {head : Char} (noSpace : isSpace head = false) (rest : List Char) :
    skipSpaces (head :: rest) = head :: rest :=
  List.dropWhile_cons_of_neg (by simp [noSpace])

theorem nextChar_eq_some {text rest : List Char} {head : Char}
    (leading : skipSpaces text = head :: rest) :
    nextChar text = some (head, ⟨rest, length_lt_of_skipSpaces_eq_cons leading⟩) := by
  unfold nextChar
  split
  · rename_i nothing
    rw [nothing] at leading
    cases leading
  · rename_i first others isCons
    rw [isCons] at leading
    cases leading
    rfl

theorem nextChar_cons {head : Char} (noSpace : isSpace head = false) (rest : List Char) :
    nextChar (head :: rest) = some (head, ⟨rest, Nat.lt_succ_self rest.length⟩) :=
  nextChar_eq_some (skipSpaces_cons noSpace rest)

theorem skipSpaces_of_nextChar {text : List Char} {head : Char} {after : Rest text}
    (isNext : nextChar text = some (head, after)) : skipSpaces text = head :: after.val := by
  unfold nextChar at isNext
  split at isNext
  · cases isNext
  · rename_i isCons
    cases isNext
    exact isCons

theorem isNone_nextChar_iff (text : List Char) :
    (nextChar text).isNone ↔ skipSpaces text = [] := by
  cases leading : skipSpaces text with
  | nil =>
      unfold nextChar
      split
      · simp
      · rename_i isCons
        rw [leading] at isCons
        cases isCons
  | cons head rest =>
      rw [nextChar_eq_some leading]
      simp

theorem readWord_append (word more : List Char) :
    ∃ after, readWord word (word ++ more) = .ok after ∧ after.val = more := by
  induction word with
  | nil => exact ⟨_, rfl, rfl⟩
  | cons head tail ih =>
      obtain ⟨_, isRead, left⟩ := ih
      simp only [List.cons_append, readWord, if_pos, isRead]
      exact ⟨_, rfl, left⟩

/-! ### Single values -/

namespace Document

/-- A value is read, and between it and the rest there are only spaces. -/
def ReadsValue (room : Nat) (text : List Char) (document : Document) (rest : List Char) : Prop :=
  ∃ after, readValue room text = .ok (document, after) ∧ skipSpaces after.val = rest

variable {room : Nat} {more : List Char}

theorem ReadsValue.of_reads {text : List Char} {document : Document} (ends : EndsValue more)
    (reads : Reads (readValue room text) document more) : ReadsValue room text document more := by
  obtain ⟨after, isRead, rfl⟩ := reads
  exact ⟨after, isRead, ends.skipSpaces_eq⟩

theorem reads_null (room : Nat) (more : List Char) :
    Reads (readValue room ('n' :: (['u', 'l', 'l'] ++ more))) .null more := by
  have noSpace : isSpace 'n' = false := by decide
  obtain ⟨_, isRead, left⟩ := readWord_append ['u', 'l', 'l'] more
  rw [readValue]
  simp only [nextChar_cons noSpace, ↓reduceIte, isRead]
  exact ⟨_, rfl, left⟩

theorem reads_true (room : Nat) (more : List Char) :
    Reads (readValue room ('t' :: (['r', 'u', 'e'] ++ more))) (.bool true) more := by
  have noSpace : isSpace 't' = false := by decide
  obtain ⟨_, isRead, left⟩ := readWord_append ['r', 'u', 'e'] more
  rw [readValue]
  simp only [nextChar_cons noSpace, Char.reduceEq, ↓reduceIte, isRead]
  exact ⟨_, rfl, left⟩

theorem reads_false (room : Nat) (more : List Char) :
    Reads (readValue room ('f' :: (['a', 'l', 's', 'e'] ++ more))) (.bool false) more := by
  have noSpace : isSpace 'f' = false := by decide
  obtain ⟨_, isRead, left⟩ := readWord_append ['a', 'l', 's', 'e'] more
  rw [readValue]
  simp only [nextChar_cons noSpace, Char.reduceEq, ↓reduceIte, isRead]
  exact ⟨_, rfl, left⟩

theorem reads_string (room : Nat) (text : String) (more : List Char) :
    Reads (readValue room ('"' :: (text.toList.flatMap escapeChar ++ '"' :: more)))
      (.string text) more := by
  have noSpace : isSpace '"' = false := by decide
  obtain ⟨_, isSkipped, left⟩ := skips_chars text.toList more
  have notNumeral : beginsNumeral '"' = false := by decide
  rw [readValue]
  simp only [nextChar_cons noSpace, Char.reduceEq, ↓reduceIte, notNumeral, Bool.false_eq_true,
    isSkipped, stringText?_flatMap_escapeChar]
  exact ⟨_, rfl, left⟩

/-- What begins as a numeral is read as one. -/
theorem readValue_of_beginsNumeral {text : List Char} {head : Char} {rest : Rest text}
    (isNext : nextChar text = some (head, rest)) (begins : beginsNumeral head = true) :
    readValue room text = do
      let (numeral, after) ← readNumeral .invalidNumber head rest.val
      return (ofNumeral numeral, rest.andThen after) := by
  have notNull : head ≠ 'n' := by rintro rfl; cases begins
  have notTrue : head ≠ 't' := by rintro rfl; cases begins
  have notFalse : head ≠ 'f' := by rintro rfl; cases begins
  rw [readValue]
  simp only [isNext, if_neg notNull, if_neg notTrue, if_neg notFalse, if_pos begins]

/-- What begins otherwise is not read as a number. -/
theorem readValue_ne_number {text : List Char} {head : Char} {rest after : Rest text}
    (isNext : nextChar text = some (head, rest)) (noNumeral : ¬ beginsNumeral head = true)
    (number : Number) : readValue room text ≠ .ok (.number number, after) := by
  intro isRead
  rw [readValue] at isRead
  simp only [isNext, if_neg noNumeral, ofStringText, bind, Except.bind] at isRead
  repeat' split at isRead
  all_goals cases isRead

theorem reads_numeral {text tail rest : List Char} {head : Char}
    {numeral : Numeral} (leading : skipSpaces text = head :: tail)
    (begins : beginsNumeral head = true)
    (reads : Reads (readNumeral .invalidNumber head tail) numeral rest) :
    Reads (readValue room text) (ofNumeral numeral) rest := by
  obtain ⟨_, isRead, left⟩ := reads
  rw [readValue_of_beginsNumeral (nextChar_eq_some leading) begins]
  simp only [isRead]
  exact ⟨_, rfl, left⟩

theorem value?_of_ofNumeral {numeral : Numeral} {number : Number}
    (isNumber : ofNumeral numeral = .number number) : numeral.value? = some number := by
  unfold ofNumeral at isNumber
  split at isNumber
  · cases isNumber
    assumption
  · cases isNumber

/-- Only a numeral is read as a number. -/
theorem exists_numeral_of_readValue {text : List Char} {number : Number} {after : Rest text}
    (isRead : readValue room text = .ok (.number number, after)) :
    ∃ head tail numeral, skipSpaces text = head :: tail ∧ beginsNumeral head = true ∧
      Reads (readNumeral .invalidNumber head tail) numeral after.val ∧
      numeral.value? = some number := by
  cases isNext : nextChar text with
  | none =>
      rw [readValue] at isRead
      simp only [isNext] at isRead
      cases isRead
  | some next =>
      obtain ⟨head, rest⟩ := next
      by_cases begins : beginsNumeral head = true
      · rw [readValue_of_beginsNumeral isNext begins] at isRead
        obtain ⟨⟨numeral, behind⟩, readsNumeral, same⟩ := exists_of_bind_eq_ok isRead
        obtain ⟨isNumber, isRest⟩ := Prod.mk.inj (Except.ok.inj same)
        refine ⟨head, rest.val, numeral, skipSpaces_of_nextChar isNext, begins, ?_,
          value?_of_ofNumeral isNumber⟩
        exact ⟨behind, readsNumeral, congrArg Subtype.val isRest⟩
      · exact absurd isRead (readValue_ne_number isNext begins number)

theorem ofText?_eq_some_iff {text : String} {document : Document} :
    ofText? text = some document ↔ ReadsValue nestingLimit text.toList document [] := by
  unfold ofText? ofText
  constructor
  · intro isRead
    split at isRead
    · rename_i isOk
      cases isRead
      obtain ⟨⟨_, after⟩, isValue, isLast⟩ := exists_of_bind_eq_ok isOk
      dsimp only at isLast
      split at isLast
      · rename_i atEnd
        cases isLast
        exact ⟨after, isValue, (isNone_nextChar_iff after.val).mp atEnd⟩
      · cases isLast
    · cases isRead
  · intro reads
    obtain ⟨after, isValue, nothing⟩ := reads
    have atEnd := (isNone_nextChar_iff after.val).mpr nothing
    simp only [isValue, bind, Except.bind, if_pos atEnd]
    rfl

/-- A number that is read back from its own text is read back wherever a value may end. -/
theorem readsValue_number {number : Number} (readsBack : number.ReadsBack) (room : Nat)
    (ends : EndsValue more) :
    ReadsValue room (number.text.toList ++ more) (.number number) more := by
  obtain ⟨after, isRead, nothing⟩ := ofText?_eq_some_iff.mp readsBack
  obtain ⟨head, tail, numeral, leading, begins, readsNumeral, isValue⟩ :=
    exists_numeral_of_readValue isRead
  have leadingMore : skipSpaces (number.text.toList ++ more) = head :: (tail ++ more) := by
    rw [ends.skipSpaces_append, leading, List.cons_append]
  obtain ⟨afterMore, isReadMore, left⟩ :=
    @reads_numeral room _ _ _ _ _ leadingMore begins
      (readsNumeral.numeral_append ends.endsNumeral)
  unfold ofNumeral at isReadMore
  rw [isValue] at isReadMore
  refine ⟨afterMore, isReadMore, ?_⟩
  rw [left, ends.skipSpaces_append, nothing, List.nil_append]

/-! ### Arrays and objects -/

theorem reads_array {items : List Document} {text : List Char}
    (reads : Reads (readArray room text) items more) :
    Reads (readValue (room + 1) ('[' :: text)) (.array items) more := by
  obtain ⟨_, isRead, left⟩ := reads
  have noSpace : isSpace '[' = false := by decide
  have notNumeral : beginsNumeral '[' = false := by decide
  rw [readValue]
  simp only [nextChar_cons noSpace, Char.reduceEq, ↓reduceIte, notNumeral, Bool.false_eq_true,
    Nat.add_sub_cancel, isRead]
  exact ⟨_, rfl, left⟩

theorem reads_object {members : List (Option String × Document)} {text : List Char}
    (reads : Reads (readObject room text) members more) :
    Reads (readValue (room + 1) ('{' :: text)) (.object members) more := by
  obtain ⟨_, isRead, left⟩ := reads
  have noSpace : isSpace '{' = false := by decide
  have notNumeral : beginsNumeral '{' = false := by decide
  rw [readValue]
  simp only [nextChar_cons noSpace, Char.reduceEq, ↓reduceIte, notNumeral, Bool.false_eq_true,
    Nat.add_sub_cancel, isRead]
  exact ⟨_, rfl, left⟩

theorem reads_array_empty (room : Nat) (more : List Char) :
    Reads (readArray room (']' :: more)) [] more := by
  have noSpace : isSpace ']' = false := by decide
  rw [readArray]
  simp only [nextChar_cons noSpace, ↓reduceIte]
  exact ⟨_, rfl, rfl⟩

/-- Items are read only where the array is not closed at once. -/
theorem reads_array_items {text : List Char} {items : List Document}
    (reads : Reads (readItems room text) items more) : Reads (readArray room text) items more := by
  obtain ⟨after, areRead, left⟩ := reads
  rw [readArray]
  split
  · rename_i noNext
    rw [readItems, readValue] at areRead
    simp only [noNext] at areRead
    cases areRead
  · rename_i head rest isNext
    split
    · rename_i isBracket
      subst isBracket
      have noNumeral : ¬ beginsNumeral ']' = true := by decide
      rw [readItems, readValue] at areRead
      simp [isNext, noNumeral] at areRead
    · exact ⟨after, areRead, left⟩

theorem reads_last_item {item : Document} {text : List Char}
    (reads : ReadsValue room text item (']' :: more)) :
    Reads (readItems room text) [item] more := by
  obtain ⟨_, isRead, leading⟩ := reads
  rw [readItems]
  simp only [isRead, Char.reduceEq, ↓reduceIte, nextChar_eq_some leading]
  exact ⟨_, rfl, rfl⟩

theorem reads_more_items {item : Document} {items : List Document} {text further : List Char}
    (reads : ReadsValue room text item (',' :: further))
    (readsFurther : Reads (readItems room further) items more) :
    Reads (readItems room text) (item :: items) more := by
  obtain ⟨_, isRead, leading⟩ := reads
  obtain ⟨_, areRead, left⟩ := readsFurther
  rw [readItems]
  simp only [isRead, ↓reduceIte, nextChar_eq_some leading, areRead]
  exact ⟨_, rfl, left⟩

theorem reads_key (key : String) (text : List Char) :
    Reads (readKey ('"' :: (key.toList.flatMap escapeChar ++ '"' :: ':' :: text))) (some key)
      text := by
  obtain ⟨⟨_, _⟩, isSkipped, rfl⟩ := skips_chars key.toList (':' :: text)
  have noSpace : isSpace '"' = false := by decide
  have alsoNoSpace : isSpace ':' = false := by decide
  unfold readKey
  simp only [nextChar_cons noSpace, ↓reduceIte, isSkipped, nextChar_cons alsoNoSpace,
    stringText?_flatMap_escapeChar]
  exact ⟨_, rfl, rfl⟩

theorem reads_object_empty (room : Nat) (more : List Char) :
    Reads (readObject room ('}' :: more)) [] more := by
  have noSpace : isSpace '}' = false := by decide
  rw [readObject]
  simp only [nextChar_cons noSpace, ↓reduceIte]
  exact ⟨_, rfl, rfl⟩

theorem reads_object_members {text : List Char} {members : List (Option String × Document)}
    (reads : Reads (readMembers room text) members more) :
    Reads (readObject room text) members more := by
  obtain ⟨after, areRead, left⟩ := reads
  rw [readObject]
  split
  · rename_i noNext
    rw [readMembers, readKey] at areRead
    simp only [noNext] at areRead
    cases areRead
  · rename_i head rest isNext
    split
    · rename_i isBrace
      subst isBrace
      rw [readMembers, readKey] at areRead
      simp [isNext] at areRead
    · exact ⟨after, areRead, left⟩

theorem reads_last_member {key : Option String} {value : Document} {text behind : List Char}
    (readsKey : Reads (readKey text) key behind)
    (readsValue : ReadsValue room behind value ('}' :: more)) :
    Reads (readMembers room text) [(key, value)] more := by
  obtain ⟨⟨_, _⟩, isKey, rfl⟩ := readsKey
  obtain ⟨_, isRead, leading⟩ := readsValue
  rw [readMembers]
  simp only [isKey, Char.reduceEq, ↓reduceIte, isRead, nextChar_eq_some leading]
  exact ⟨_, rfl, rfl⟩

theorem reads_more_members {key : Option String} {value : Document}
    {members : List (Option String × Document)} {text behind further : List Char}
    (readsKey : Reads (readKey text) key behind)
    (readsValue : ReadsValue room behind value (',' :: further))
    (readsFurther : Reads (readMembers room further) members more) :
    Reads (readMembers room text) ((key, value) :: members) more := by
  obtain ⟨⟨_, _⟩, isKey, rfl⟩ := readsKey
  obtain ⟨_, isRead, leading⟩ := readsValue
  obtain ⟨_, areRead, left⟩ := readsFurther
  dsimp only at isRead
  rw [readMembers]
  simp only [isKey, ↓reduceIte, isRead, nextChar_eq_some leading, areRead]
  exact ⟨_, rfl, left⟩

end Document

end KeyedQuery.Json
