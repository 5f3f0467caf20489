import KeyedQuery.Json.Document

/-!
Quoted text is read back.

Behind its opening quote, a quoted text is read piece by piece, one piece for each of its
characters, and the reader stops behind the closing quote. It comes out with the text that was
quoted, whatever its characters are and whatever follows.
-/

set_option autoImplicit false

namespace KeyedQuery.Json

/-- A reader comes out with the value and leaves the rest. -/
def Reads {Value : Type} {bound : List Char → Prop}
    (outcome : Except ReadError (Value × { rest : List Char // bound rest })) (value : Value)
    (rest : List Char) : Prop :=
  ∃ after, outcome = .ok (value, after) ∧ after.val = rest

/-! ### Characters -/

theorem letterMeaning?_of_escapeLetter? {character letter : Char}
    (escaped : escapeLetter? character = some letter) :
    letter ≠ 'u' ∧ letterMeaning? letter = some character := by
  unfold escapeLetter? at escaped
  repeat' split at escaped
  all_goals cases escaped
  all_goals
    subst_vars
    decide

theorem plain_of_escapeLetter?_eq_none {character : Char}
    (unescaped : escapeLetter? character = none) : character ≠ '"' ∧ character ≠ '\\' := by
  constructor
  · intro same
    rw [same] at unescaped
    cases unescaped
  · intro same
    rw [same] at unescaped
    cases unescaped

theorem hexValue?_hexDigit {value : Nat} (small : value < 16) :
    hexValue? (hexDigit value) = some value := by
  have checked : ∀ digit : Fin 16, hexValue? (hexDigit digit.val) = some digit.val := by decide
  exact checked ⟨value, small⟩

theorem Piece.ofUnit_toNat {character : Char} (control : character.toNat < 0x20) :
    Piece.ofUnit character.toNat = .char character := by
  have noHalf : (isLeadingHalf character.toNat || isTrailingHalf character.toNat) = false := by
    simp only [isLeadingHalf, isTrailingHalf, Bool.or_eq_false_iff, Bool.and_eq_false_iff,
      decide_eq_false_iff_not]
    omega
  unfold Piece.ofUnit
  rw [noHalf, Char.ofNat_toNat]
  rfl

theorem readUnit_control {character : Char} (control : character.toNat < 0x20)
    (rest : List Char) :
    Reads (readUnit ('0' :: '0' :: hexDigit (character.toNat / 16) ::
      hexDigit (character.toNat % 16) :: rest)) character.toNat rest := by
  have zero : hexValue? '0' = some 0 := by decide
  have sum : ((0 * 16 + 0) * 16 + character.toNat / 16) * 16 + character.toNat % 16 =
      character.toNat := by
    omega
  unfold readUnit
  simp only [zero, hexValue?_hexDigit (Nat.div_lt_of_lt_mul (Nat.lt_trans control (by decide)) :
      character.toNat / 16 < 16), hexValue?_hexDigit (Nat.mod_lt _ (by decide) :
      character.toNat % 16 < 16), sum]
  exact ⟨_, rfl, rfl⟩

/-! ### Pieces -/

theorem reads_escape_letter {letter character : Char} (notUnit : letter ≠ 'u')
    (meaning : letterMeaning? letter = some character) (rest : List Char) :
    Reads (readEscape (letter :: rest)) (.char character) rest := by
  simp only [readEscape, if_neg notUnit, meaning]
  exact ⟨_, rfl, rfl⟩

theorem reads_escape_unit {text rest : List Char} {unit : Nat}
    (readsUnit : Reads (readUnit text) unit rest) :
    Reads (readEscape ('u' :: text)) (Piece.ofUnit unit) rest := by
  obtain ⟨after, isRead, left⟩ := readsUnit
  simp only [readEscape, if_pos, isRead]
  exact ⟨_, rfl, left⟩

theorem reads_escape {text rest : List Char} {piece : Piece}
    (readsEscape : Reads (readEscape text) piece rest) :
    Reads (readPiece ('\\' :: text)) (some piece) rest := by
  obtain ⟨after, isRead, left⟩ := readsEscape
  have notQuote : ('\\' : Char) ≠ '"' := by decide
  simp only [readPiece, if_neg notQuote, if_pos, isRead]
  exact ⟨_, rfl, left⟩

theorem reads_plain {character : Char} (notQuote : character ≠ '"')
    (notBackslash : character ≠ '\\') (visible : ¬ character.toNat < 0x20) (rest : List Char) :
    Reads (readPiece (character :: rest)) (some (.char character)) rest := by
  simp only [readPiece, if_neg notQuote, if_neg notBackslash, if_neg visible]
  exact ⟨_, rfl, rfl⟩

theorem reads_closing (rest : List Char) : Reads (readPiece ('"' :: rest)) none rest := by
  simp only [readPiece, if_pos]
  exact ⟨_, rfl, rfl⟩

/-- Every character is read back as one piece. -/
theorem reads_escapeChar (character : Char) (rest : List Char) :
    Reads (readPiece (escapeChar character ++ rest)) (some (.char character)) rest := by
  unfold escapeChar
  cases escaped : escapeLetter? character with
  | some letter =>
      obtain ⟨notUnit, meaning⟩ := letterMeaning?_of_escapeLetter? escaped
      exact reads_escape (reads_escape_letter notUnit meaning rest)
  | none =>
      obtain ⟨notQuote, notBackslash⟩ := plain_of_escapeLetter?_eq_none escaped
      dsimp only
      by_cases control : character.toNat < 0x20
      · rw [if_pos control, ← Piece.ofUnit_toNat control]
        exact reads_escape (reads_escape_unit (readUnit_control control rest))
      · rw [if_neg control]
        exact reads_plain notQuote notBackslash control rest

/-! ### Quoted texts -/

theorem reads_chars (characters : List Char) (rest : List Char) :
    Reads (readChars (characters.flatMap escapeChar ++ '"' :: rest)) characters rest := by
  induction characters with
  | nil =>
      obtain ⟨after, isRead, left⟩ := reads_closing rest
      rw [List.flatMap_nil, List.nil_append, readChars, isRead]
      exact ⟨after, rfl, left⟩
  | cons head tail ih =>
      rw [List.flatMap_cons, List.append_assoc]
      obtain ⟨⟨afterHead, shorter⟩, headRead, rfl⟩ :=
        reads_escapeChar head (tail.flatMap escapeChar ++ '"' :: rest)
      obtain ⟨after, tailRead, left⟩ := ih
      rw [readChars, headRead]
      dsimp only
      rw [tailRead]
      exact ⟨_, rfl, left⟩

theorem skips_chars (characters : List Char) (rest : List Char) :
    ∃ after, skipString (characters.flatMap escapeChar ++ '"' :: rest) = .ok after ∧
      after.val = rest := by
  induction characters with
  | nil =>
      obtain ⟨after, isRead, left⟩ := reads_closing rest
      rw [List.flatMap_nil, List.nil_append, skipString, isRead]
      exact ⟨after, rfl, left⟩
  | cons head tail ih =>
      rw [List.flatMap_cons, List.append_assoc]
      obtain ⟨⟨afterHead, shorter⟩, headRead, rfl⟩ :=
        reads_escapeChar head (tail.flatMap escapeChar ++ '"' :: rest)
      obtain ⟨after, tailRead, left⟩ := ih
      rw [skipString, headRead]
      dsimp only
      rw [tailRead]
      exact ⟨_, rfl, left⟩

theorem stringText?_flatMap_escapeChar (text : String) (rest : List Char) :
    Document.stringText? (text.toList.flatMap escapeChar ++ '"' :: rest) = some text := by
  obtain ⟨after, isRead, _⟩ := reads_chars text.toList rest
  unfold Document.stringText? readString
  rw [isRead]
  exact congrArg some String.ofList_toList

theorem quote_eq_cons (text : String) (rest : List Char) :
    (quote text).toList ++ rest = '"' :: (text.toList.flatMap escapeChar ++ '"' :: rest) := by
  unfold quote
  rw [String.toList_ofList, List.cons_append, List.cons_append, List.append_assoc,
    List.singleton_append]

end KeyedQuery.Json
