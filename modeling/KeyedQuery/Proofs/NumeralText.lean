import KeyedQuery.Proofs.StringText

/-!
Numerals are read to their end.

A numeral is read alike whether the text ends behind it or goes on with something that no numeral
goes on with. The decimal text of an integer within the range of 64-bit words is a numeral that
stands for it.
-/

set_option autoImplicit false

namespace KeyedQuery.Json

theorem exists_of_bind_eq_ok {Value Result : Type} {first : Except ReadError Value}
    {next : Value → Except ReadError Result} {result : Result}
    (done : (first >>= next) = .ok result) :
    ∃ value, first = .ok value ∧ next value = .ok result := by
  cases first with
  | error cause => cases done
  | ok value => exact ⟨value, rfl, done⟩

/-! ### Texts that go on -/

/-- No numeral goes on with such a text. -/
def EndsNumeral (text : List Char) : Prop :=
  ∀ head ∈ text.head?, isDigit head = false ∧ head ≠ '.' ∧ (head = 'e' || head = 'E') = false

theorem takeWhile_append_of_stop {Item : Type} {keep : Item → Bool} {more : List Item}
    (stop : ∀ head ∈ more.head?, keep head = false) (items : List Item) :
    (items ++ more).takeWhile keep = items.takeWhile keep := by
  induction items with
  | nil =>
      cases more with
      | nil => rfl
      | cons head tail => exact List.takeWhile_cons_of_neg (by simp [stop head rfl])
  | cons head tail ih =>
      rw [List.cons_append, List.takeWhile_cons, List.takeWhile_cons, ih]

theorem dropWhile_append_of_stop {Item : Type} {keep : Item → Bool} {more : List Item}
    (stop : ∀ head ∈ more.head?, keep head = false) (items : List Item) :
    (items ++ more).dropWhile keep = items.dropWhile keep ++ more := by
  induction items with
  | nil =>
      cases more with
      | nil => rfl
      | cons head tail => exact List.dropWhile_cons_of_neg (by simp [stop head rfl])
  | cons head tail ih =>
      rw [List.cons_append, List.dropWhile_cons, List.dropWhile_cons, ih]
      split <;> rfl

section

variable {atEnd : ReadError} {text rest more : List Char}

theorem Reads.digits_append {digits : List Nat} (reads : Reads (readDigits atEnd text) digits rest)
    (ends : EndsNumeral more) : Reads (readDigits atEnd (text ++ more)) digits (rest ++ more) := by
  have stop : ∀ head ∈ more.head?, isDigit head = false := fun head first => (ends head first).1
  obtain ⟨after, isRead, rfl⟩ := reads
  cases text with
  | nil => cases isRead
  | cons head tail =>
      simp only [readDigits] at isRead
      split at isRead
      · rename_i isDigitHead
        cases isRead
        simp only [List.cons_append, readDigits, if_pos isDigitHead, takeWhile_append_of_stop stop,
          dropWhile_append_of_stop stop]
        exact ⟨_, rfl, rfl⟩
      · cases isRead

theorem Reads.integer_append {digits : List Nat}
    (reads : Reads (readInteger atEnd text) digits rest) (ends : EndsNumeral more) :
    Reads (readInteger atEnd (text ++ more)) digits (rest ++ more) := by
  obtain ⟨after, isRead, rfl⟩ := reads
  obtain ⟨⟨written, behind⟩, readsDigits, isRead⟩ := exists_of_bind_eq_ok isRead
  dsimp only at isRead
  split at isRead
  · cases isRead
  · rename_i noLeadingZero
    cases isRead
    obtain ⟨further, readsFurther, left⟩ := Reads.digits_append ⟨_, readsDigits, rfl⟩ ends
    unfold readInteger
    rw [readsFurther]
    change Reads (if _ then _ else _) _ _
    rw [if_neg noLeadingZero]
    exact ⟨_, rfl, left⟩

theorem Reads.fraction_append {digits : List Nat}
    (reads : Reads (readFraction atEnd text) digits rest) (ends : EndsNumeral more) :
    Reads (readFraction atEnd (text ++ more)) digits (rest ++ more) := by
  obtain ⟨after, isRead, rfl⟩ := reads
  cases text with
  | nil =>
      cases isRead
      cases more with
      | nil => exact ⟨_, rfl, rfl⟩
      | cons head tail =>
          simp only [List.nil_append, readFraction, if_neg (ends head rfl).2.1]
          exact ⟨_, rfl, rfl⟩
  | cons head tail =>
      simp only [readFraction] at isRead
      simp only [List.cons_append, readFraction]
      split at isRead
      · rename_i isPoint
        obtain ⟨⟨written, behind⟩, readsDigits, isRead⟩ := exists_of_bind_eq_ok isRead
        cases isRead
        obtain ⟨further, readsFurther, left⟩ := Reads.digits_append ⟨_, readsDigits, rfl⟩ ends
        rw [if_pos isPoint, readsFurther]
        exact ⟨_, rfl, left⟩
      · rename_i noPoint
        cases isRead
        rw [if_neg noPoint]
        exact ⟨_, rfl, rfl⟩

theorem readExponentSign_append (present : text ≠ []) (more : List Char) :
    (readExponentSign (text ++ more)).1 = (readExponentSign text).1 ∧
      (readExponentSign (text ++ more)).2.val = (readExponentSign text).2.val ++ more := by
  cases text with
  | nil => exact absurd rfl present
  | cons head tail =>
      simp only [List.cons_append, readExponentSign]
      split
      · exact ⟨rfl, rfl⟩
      · split
        · exact ⟨rfl, rfl⟩
        · exact ⟨rfl, rfl⟩

theorem Reads.exponent_append {exponent : Option (Bool × List Nat)}
    (reads : Reads (readExponent atEnd text) exponent rest) (ends : EndsNumeral more) :
    Reads (readExponent atEnd (text ++ more)) exponent (rest ++ more) := by
  obtain ⟨after, isRead, rfl⟩ := reads
  cases text with
  | nil =>
      cases isRead
      cases more with
      | nil => exact ⟨_, rfl, rfl⟩
      | cons head tail =>
          simp only [List.nil_append, readExponent, (ends head rfl).2.2]
          exact ⟨_, rfl, rfl⟩
  | cons head tail =>
      simp only [readExponent] at isRead
      simp only [List.cons_append, readExponent]
      split at isRead
      · rename_i isMark
        obtain ⟨⟨written, behind⟩, readsDigits, isRead⟩ := exists_of_bind_eq_ok isRead
        cases isRead
        have present : tail ≠ [] := by
          intro nothing
          subst nothing
          cases readsDigits
        obtain ⟨sameSign, sameUnsigned⟩ := readExponentSign_append present more
        have readsMore := Reads.digits_append ⟨_, readsDigits, rfl⟩ ends
        rw [← sameUnsigned] at readsMore
        obtain ⟨further, readsFurther, left⟩ := readsMore
        rw [if_pos isMark, readsFurther, sameSign]
        exact ⟨_, rfl, left⟩
      · rename_i noMark
        cases isRead
        rw [if_neg noMark]
        exact ⟨_, rfl, rfl⟩

theorem reads_unsigned {middle last : List Char} {integer fraction : List Nat}
    {exponent : Option (Bool × List Nat)} (negative : Bool)
    (readsInteger : Reads (readInteger atEnd text) integer middle)
    (readsFraction : Reads (readFraction atEnd middle) fraction last)
    (readsExponent : Reads (readExponent atEnd last) exponent rest) :
    Reads (readUnsigned atEnd negative text) ⟨negative, integer, fraction, exponent⟩ rest := by
  obtain ⟨⟨_, _⟩, integerRead, rfl⟩ := readsInteger
  obtain ⟨⟨_, _⟩, fractionRead, rfl⟩ := readsFraction
  obtain ⟨_, exponentRead, rfl⟩ := readsExponent
  dsimp only at fractionRead exponentRead
  simp only [readUnsigned, integerRead, fractionRead, exponentRead, bind, Except.bind]
  exact ⟨_, rfl, rfl⟩

theorem reads_numeral_negative {numeral : Numeral}
    (reads : Reads (readUnsigned atEnd true text) numeral rest) :
    Reads (readNumeral atEnd '-' text) numeral rest := by
  obtain ⟨_, isRead, left⟩ := reads
  simp only [readNumeral, if_pos, isRead]
  exact ⟨_, rfl, left⟩

theorem reads_numeral {head : Char} {numeral : Numeral} (noMinus : head ≠ '-')
    (reads : Reads (readUnsigned atEnd false (head :: text)) numeral rest) :
    Reads (readNumeral atEnd head text) numeral rest := by
  obtain ⟨_, isRead, left⟩ := reads
  simp only [readNumeral, if_neg noMinus, isRead]
  exact ⟨_, rfl, left⟩

theorem Reads.unsigned_append {negative : Bool} {numeral : Numeral}
    (reads : Reads (readUnsigned atEnd negative text) numeral rest) (ends : EndsNumeral more) :
    Reads (readUnsigned atEnd negative (text ++ more)) numeral (rest ++ more) := by
  obtain ⟨after, isRead, rfl⟩ := reads
  obtain ⟨⟨integer, afterInteger⟩, readsInteger, isRead⟩ := exists_of_bind_eq_ok isRead
  obtain ⟨⟨fraction, afterFraction⟩, readsFraction, isRead⟩ := exists_of_bind_eq_ok isRead
  obtain ⟨⟨exponent, afterExponent⟩, readsExponent, isRead⟩ := exists_of_bind_eq_ok isRead
  cases isRead
  exact reads_unsigned negative (Reads.integer_append ⟨_, readsInteger, rfl⟩ ends)
    (Reads.fraction_append ⟨_, readsFraction, rfl⟩ ends)
    (Reads.exponent_append ⟨_, readsExponent, rfl⟩ ends)

/-- A numeral is read alike where the text goes on behind it. -/
theorem Reads.numeral_append {head : Char} {numeral : Numeral}
    (reads : Reads (readNumeral atEnd head text) numeral rest) (ends : EndsNumeral more) :
    Reads (readNumeral atEnd head (text ++ more)) numeral (rest ++ more) := by
  obtain ⟨after, isRead, rfl⟩ := reads
  unfold readNumeral at isRead
  split at isRead
  · rename_i isMinus
    subst isMinus
    obtain ⟨⟨written, behind⟩, readsUnsigned, isRead⟩ := exists_of_bind_eq_ok isRead
    cases isRead
    exact reads_numeral_negative (Reads.unsigned_append ⟨_, readsUnsigned, rfl⟩ ends)
  · rename_i noMinus
    obtain ⟨⟨written, behind⟩, readsUnsigned, isRead⟩ := exists_of_bind_eq_ok isRead
    cases isRead
    exact reads_numeral noMinus (Reads.unsigned_append ⟨_, readsUnsigned, rfl⟩ ends)

end

/-! ### Integers -/

theorem isDigit_of_mem_toDigits {value : Nat} {digit : Char}
    (member : digit ∈ Nat.toDigits 10 value) : isDigit digit = true := by
  have known : digit.isDigit = true :=
    Nat.isDigit_of_mem_toDigits (by decide) (by decide) member
  unfold Char.isDigit at known
  exact known

theorem natOfDigits_toDigits (value : Nat) :
    Numeral.natOfDigits ((Nat.toDigits 10 value).map digitValue) = value := by
  have same := @Nat.ofDigitChars_ten_toDigits value
  rw [Nat.ofDigitChars_eq_foldl] at same
  have sameStep : (fun (sum : Nat) (digit : Char) => sum * 10 + digitValue digit) =
      fun sum digit => 10 * sum + (digit.toNat - '0'.toNat) := by
    funext sum digit
    rw [Nat.mul_comm]
    rfl
  unfold Numeral.natOfDigits
  rw [List.foldl_map, sameStep]
  exact same

/-- The digits of a number begin with zero only for zero. -/
theorem eq_zero_of_head?_toDigits {value : Nat}
    (isZero : (Nat.toDigits 10 value).head? = some '0') : value = 0 := by
  induction value using Nat.strongRecOn with
  | ind value ih =>
      rw [Nat.toDigits_eq_if (by decide)] at isZero
      split at isZero
      · exact Nat.digitChar_eq_zero.mp (Option.some.inj isZero)
      · rename_i large
        obtain ⟨first, others, split⟩ :=
          List.exists_cons_of_ne_nil (@Nat.toDigits_ne_nil (value / 10) 10)
        rw [split, List.cons_append, List.head?_cons] at isZero
        have quotientZero : value / 10 = 0 := by
          apply ih (value / 10) (by omega)
          rw [split, List.head?_cons]
          exact isZero
        omega

theorem eq_zero_of_digitValue {digit : Char} (isDigitChar : isDigit digit = true)
    (isZero : digitValue digit = 0) : digit = '0' := by
  unfold isDigit at isDigitChar
  obtain ⟨least, _⟩ := Bool.and_eq_true_iff.mp isDigitChar
  have atLeast : 48 ≤ digit.toNat := of_decide_eq_true least
  unfold digitValue at isZero
  apply Char.toNat_inj.mp
  change digit.toNat = 48
  omega

/-- No zero is written before other digits. -/
theorem no_leading_zero_toDigits (value : Nat) :
    ¬ (((Nat.toDigits 10 value).map digitValue).head? = some 0 ∧
      1 < ((Nat.toDigits 10 value).map digitValue).length) := by
  intro both
  obtain ⟨headZero, long⟩ := both
  rw [List.head?_map] at headZero
  obtain ⟨first, isFirst, isZero⟩ := Option.map_eq_some_iff.mp headZero
  have isDigitFirst : isDigit first = true :=
    isDigit_of_mem_toDigits (List.mem_of_mem_head? isFirst)
  rw [eq_zero_of_digitValue isDigitFirst isZero] at isFirst
  rw [eq_zero_of_head?_toDigits isFirst, Nat.toDigits_zero] at long
  exact absurd long (by decide)

theorem reads_digits_toDigits (atEnd : ReadError) (value : Nat) :
    Reads (readDigits atEnd (Nat.toDigits 10 value))
      ((Nat.toDigits 10 value).map digitValue) [] := by
  have allDigits : ∀ digit ∈ Nat.toDigits 10 value, isDigit digit = true :=
    fun _ member => isDigit_of_mem_toDigits member
  obtain ⟨first, others, split⟩ := List.exists_cons_of_ne_nil (@Nat.toDigits_ne_nil value 10)
  rw [split, List.forall_mem_cons] at allDigits
  rw [split]
  have allTaken := @List.takeWhile_append_of_pos Char isDigit others [] allDigits.2
  have noneLeft := @List.dropWhile_append_of_pos Char isDigit others [] allDigits.2
  rw [List.append_nil, List.takeWhile_nil, List.append_nil] at allTaken
  rw [List.append_nil, List.dropWhile_nil] at noneLeft
  simp only [readDigits, if_pos allDigits.1, allTaken]
  exact ⟨_, rfl, noneLeft⟩

theorem reads_integer_toDigits (atEnd : ReadError) (value : Nat) :
    Reads (readInteger atEnd (Nat.toDigits 10 value))
      ((Nat.toDigits 10 value).map digitValue) [] := by
  obtain ⟨after, isRead, left⟩ := reads_digits_toDigits atEnd value
  unfold readInteger
  rw [isRead]
  change Reads (if _ then _ else _) _ _
  rw [if_neg (no_leading_zero_toDigits value)]
  exact ⟨_, rfl, left⟩

theorem reads_unsigned_toDigits (atEnd : ReadError) (negative : Bool) (value : Nat) :
    Reads (readUnsigned atEnd negative (Nat.toDigits 10 value))
      ⟨negative, (Nat.toDigits 10 value).map digitValue, [], none⟩ [] :=
  reads_unsigned negative (reads_integer_toDigits atEnd value) ⟨_, rfl, rfl⟩ ⟨_, rfl, rfl⟩

theorem Numeral.value?_negative {magnitude : Nat} (positive : 0 < magnitude)
    (fits : magnitude ≤ Word.signedBound) :
    Numeral.value? ⟨true, (Nat.toDigits 10 magnitude).map digitValue, [], none⟩ =
      some (.whole (-Int.ofNat magnitude)) := by
  unfold value?
  dsimp only
  rw [natOfDigits_toDigits]
  exact if_pos (by simp [isInteger, positive, fits])

theorem Numeral.value?_natural {magnitude : Nat} (fits : magnitude < Word.unsignedBound) :
    Numeral.value? ⟨false, (Nat.toDigits 10 magnitude).map digitValue, [], none⟩ =
      some (.whole (Int.ofNat magnitude)) := by
  unfold value?
  dsimp only
  rw [natOfDigits_toDigits, if_neg (by simp), if_pos (by simp [isInteger, fits])]

/-- A text that is one numeral, and nothing else, which stands for the number. -/
def IsNumeralOf (text : List Char) (number : Number) : Prop :=
  ∃ head tail numeral, text = head :: tail ∧ beginsNumeral head = true ∧
    Reads (readNumeral .invalidNumber head tail) numeral [] ∧ numeral.value? = some number

theorem isNumeralOf_integerText {value : Int} (least : -Int.ofNat Word.signedBound ≤ value)
    (greatest : value < Int.ofNat Word.unsignedBound) :
    IsNumeralOf (Decimal.integerText value).toList (.whole value) := by
  unfold Decimal.integerText
  simp only [Int.ofNat_eq_natCast] at least greatest
  split
  · have sameValue : value = -Int.ofNat value.natAbs := by
      simp only [Int.ofNat_eq_natCast]
      omega
    refine ⟨'-', Nat.toDigits 10 value.natAbs, _, ?_, by decide,
      reads_numeral_negative (reads_unsigned_toDigits _ _ _), ?_⟩
    · rw [String.toList_append, Nat.repr_eq_ofList_toDigits, String.toList_ofList,
        String.toList_ofList, List.singleton_append]
    · rw [Numeral.value?_negative (by omega) (by omega), ← sameValue]
  · have sameValue : value = Int.ofNat value.natAbs := by
      simp only [Int.ofNat_eq_natCast]
      omega
    obtain ⟨first, others, split⟩ :=
      List.exists_cons_of_ne_nil (@Nat.toDigits_ne_nil value.natAbs 10)
    have isDigitFirst : isDigit first = true := by
      apply isDigit_of_mem_toDigits
      rw [split]
      exact List.mem_cons_self
    have noMinus : first ≠ '-' := by
      intro isMinus
      rw [isMinus] at isDigitFirst
      cases isDigitFirst
    have readsFirst := reads_unsigned_toDigits .invalidNumber false value.natAbs
    rw [Nat.repr_eq_ofList_toDigits, String.toList_ofList]
    rw [split] at readsFirst ⊢
    refine ⟨first, others, _, rfl, ?_, reads_numeral noMinus readsFirst, ?_⟩
    · unfold beginsNumeral
      rw [isDigitFirst, Bool.or_true]
    · rw [← split, Numeral.value?_natural (by omega), ← sameValue]

end KeyedQuery.Json
