import KeyedQuery.Pageable

/-!
Where the pages of a result lie.

The offset of a page is the product of its number and its size, or the bound that the product
passes where it is no word. It never wraps, so a later page does not begin earlier. As far as the
product is a word, the pages tile the result: each of them ends where the next one begins, and
every row before the last of them is on exactly one.
-/

set_option autoImplicit false

namespace KeyedQuery

/-! ### Words -/

namespace Word

/-- A number that is no word is held at the bound that it passes. -/
theorem toInt_ofIntClamp_eq (value : Int) :
    (Int64.ofIntClamp value).toInt =
      max Int64.minValue.toInt (min value Int64.maxValue.toInt) := by
  have ordered : Int64.minValue.toInt ≤ Int64.maxValue.toInt := by decide
  unfold Int64.ofIntClamp
  split
  · split
    · rw [Int64.toInt_ofIntLE]
      omega
    · omega
  · omega

theorem exists_toInt_eq {value : Int} {later : Int64} (notNegative : 0 ≤ value)
    (below : value < later.toInt) : ∃ number : Int64, number.toInt = value := by
  have greatest := later.toInt_lt
  exact ⟨Int64.ofInt value, Int64.toInt_ofInt_of_le (by omega) (by omega)⟩

/-- Below another word, counting does not wrap. -/
theorem toInt_add_one {number later : Int64} (before : number < later) :
    (number + 1).toInt = number.toInt + 1 := by
  have below : number.toInt < later.toInt := Int64.lt_iff_toInt_lt.mp before
  have least := number.le_toInt
  have greatest := later.toInt_lt
  rw [Int64.toInt_add, Int64.toInt_one]
  exact Int.bmod_eq_of_le (by omega) (by omega)

theorem add_one_le {number later : Int64} (before : number < later) : number + 1 ≤ later := by
  have below : number.toInt < later.toInt := Int64.lt_iff_toInt_lt.mp before
  rw [Int64.le_iff_toInt_le, toInt_add_one before]
  omega

end Word

/-! ### Rows of a page -/

namespace Pageable

/-- The number of the row at which a page begins. -/
def firstRow (pageable : Pageable) : Int :=
  pageable.bounds.1.toInt

/-- The number of the row behind the last one of a page, which need not be a word. -/
def endRow (pageable : Pageable) : Int :=
  pageable.firstRow + pageable.bounds.2.toInt

def Holds (pageable : Pageable) (row : Int) : Prop :=
  pageable.firstRow ≤ row ∧ row < pageable.endRow

theorem firstRow_page (number size : Int64) :
    (page number size).firstRow =
      max Int64.minValue.toInt (min (number.toInt * size.toInt) Int64.maxValue.toInt) :=
  Word.toInt_ofIntClamp_eq (number.toInt * size.toInt)

theorem endRow_page (number size : Int64) :
    (page number size).endRow = (page number size).firstRow + size.toInt := rfl

section

variable {size : Int64} (positive : 0 < size)
include positive

theorem toInt_size_pos : 0 < size.toInt := by
  have above := Int64.lt_iff_toInt_lt.mp positive
  rwa [Int64.toInt_zero] at above

theorem toInt_mul_size_le {earlier later : Int64} (order : earlier ≤ later) :
    earlier.toInt * size.toInt ≤ later.toInt * size.toInt :=
  Int.mul_le_mul_of_nonneg_right (Int64.le_iff_toInt_le.mp order)
    (Int.le_of_lt (toInt_size_pos positive))

/-- A later page does not begin earlier, also where the product is held at a bound. -/
theorem firstRow_page_mono {earlier later : Int64} (order : earlier ≤ later) :
    (page earlier size).firstRow ≤ (page later size).firstRow := by
  have grows := toInt_mul_size_le positive order
  rw [firstRow_page, firstRow_page]
  omega

/-! ### Pages that begin within a word -/

variable {later : Int64} (fits : later.toInt * size.toInt ≤ Int64.maxValue.toInt)
include fits

theorem fits_of_le {number : Int64} (upTo : number ≤ later) :
    number.toInt * size.toInt ≤ Int64.maxValue.toInt :=
  Int.le_trans (toInt_mul_size_le positive upTo) fits

theorem firstRow_page_eq {number : Int64} (notNegative : 0 ≤ number) (upTo : number ≤ later) :
    (page number size).firstRow = number.toInt * size.toInt := by
  have atLeast : 0 ≤ number.toInt * size.toInt :=
    Int.mul_nonneg (Int64.le_iff_toInt_le.mp notNegative)
      (Int.le_of_lt (toInt_size_pos positive))
  have atMost := fits_of_le positive fits upTo
  have leastNegative := Int64.toInt_minValue_lt_zero
  rw [firstRow_page]
  omega

/-- A page ends where the next one begins. -/
theorem firstRow_page_add_one {number : Int64} (notNegative : 0 ≤ number)
    (before : number < later) :
    (page (number + 1) size).firstRow = (page number size).endRow := by
  have successor := Word.toInt_add_one before
  have numberNotNegative : 0 ≤ number.toInt := Int64.le_iff_toInt_le.mp notNegative
  have nextNotNegative : 0 ≤ number + 1 := by
    rw [Int64.le_iff_toInt_le, successor, Int64.toInt_zero]
    omega
  rw [endRow_page, firstRow_page_eq positive fits nextNotNegative (Word.add_one_le before),
    firstRow_page_eq positive fits notNegative (Int64.le_of_lt before), successor, Int.add_mul,
    Int.one_mul]

/-- A page ends before any later one begins, since the next one does not begin behind that. -/
theorem endRow_page_le {number : Int64} (notNegative : 0 ≤ number) (before : number < later) :
    (page number size).endRow ≤ (page later size).firstRow := by
  rw [← firstRow_page_add_one positive fits notNegative before]
  exact firstRow_page_mono positive (Word.add_one_le before)

theorem not_holds_of_lt {number : Int64} {row : Int} (notNegative : 0 ≤ number)
    (before : number < later) (held : (page number size).Holds row) :
    ¬ (page later size).Holds row := by
  intro heldLater
  have ended := endRow_page_le positive fits notNegative before
  have beforeEnd := held.2
  have behindStart := heldLater.1
  omega

/-- The page of a row is found by dividing the number of the row by the size. -/
theorem exists_holds {row : Int} (notNegative : 0 ≤ row)
    (before : row < (page later size).firstRow) :
    ∃ number : Int64, 0 ≤ number ∧ number < later ∧ (page number size).Holds row := by
  have sizePositive := toInt_size_pos positive
  have beforeProduct : row < later.toInt * size.toInt := by
    have leastNegative := Int64.toInt_minValue_lt_zero
    rw [firstRow_page] at before
    omega
  have begun : row / size.toInt * size.toInt ≤ row := Int.ediv_mul_le row (by omega)
  have notEnded : row < (row / size.toInt + 1) * size.toInt :=
    Int.lt_ediv_add_one_mul_self row sizePositive
  have below : row / size.toInt < later.toInt :=
    Int.lt_of_mul_lt_mul_right (Int.lt_of_le_of_lt begun beforeProduct) (Int.le_of_lt sizePositive)
  have atLeast : 0 ≤ row / size.toInt := Int.ediv_nonneg notNegative (Int.le_of_lt sizePositive)
  obtain ⟨number, isQuotient⟩ := Word.exists_toInt_eq atLeast below
  rw [← isQuotient] at begun notEnded below atLeast
  rw [Int.add_mul, Int.one_mul] at notEnded
  have numberNotNegative : 0 ≤ number := Int64.le_iff_toInt_le.mpr atLeast
  have numberBefore : number < later := Int64.lt_iff_toInt_lt.mpr below
  have starts : (page number size).firstRow = number.toInt * size.toInt :=
    firstRow_page_eq positive fits numberNotNegative (Int64.le_of_lt numberBefore)
  refine ⟨number, numberNotNegative, numberBefore, ?_, ?_⟩
  · rw [starts]
    exact begun
  · rw [endRow_page, starts]
    exact notEnded

/-- No row is on two pages. -/
theorem eq_of_holds {number other : Int64} {row : Int} (notNegative : 0 ≤ number)
    (otherNotNegative : 0 ≤ other) (before : number < later) (otherBefore : other < later)
    (held : (page number size).Holds row) (otherHeld : (page other size).Holds row) :
    other = number := by
  have numberFits := fits_of_le positive fits (Int64.le_of_lt before)
  have otherFits := fits_of_le positive fits (Int64.le_of_lt otherBefore)
  rcases Int.lt_trichotomy other.toInt number.toInt with isLess | same | isGreater
  · exact absurd held (not_holds_of_lt positive numberFits otherNotNegative
      (Int64.lt_iff_toInt_lt.mpr isLess) otherHeld)
  · exact Int64.toInt_inj.mp same
  · exact absurd otherHeld (not_holds_of_lt positive otherFits notNegative
      (Int64.lt_iff_toInt_lt.mpr isGreater) held)

end

end Pageable

/-- The offset of a page is the exact product held at the bounds of a word, and it does not fall
from one page to a later one. As far as pages begin within a word, each ends where the next one
begins and before every later one, and each row is on exactly one of them. -/
theorem pages_tile_rows (size : Int64) :
    (∀ number : Int64, ∃ offset : Int64, Pageable.page number size = .paged offset size ∧
      offset.toInt =
        max Int64.minValue.toInt (min (number.toInt * size.toInt) Int64.maxValue.toInt)) ∧
    (0 < size →
      (∀ earlier later : Int64, earlier ≤ later →
        (Pageable.page earlier size).firstRow ≤ (Pageable.page later size).firstRow) ∧
      ∀ later : Int64, later.toInt * size.toInt ≤ Int64.maxValue.toInt →
        (∀ earlier : Int64, 0 ≤ earlier → earlier < later →
          (Pageable.page earlier size).endRow ≤ (Pageable.page later size).firstRow ∧
          (Pageable.page (earlier + 1) size).firstRow = (Pageable.page earlier size).endRow) ∧
        ∀ row : Int, 0 ≤ row → row < (Pageable.page later size).firstRow →
          ∃ number : Int64, 0 ≤ number ∧ number < later ∧
            (Pageable.page number size).Holds row ∧
            ∀ other : Int64, 0 ≤ other → other < later →
              (Pageable.page other size).Holds row → other = number) := by
  refine ⟨fun number => ⟨_, rfl, Word.toInt_ofIntClamp_eq _⟩, ?_⟩
  intro positive
  refine ⟨fun _ _ order => Pageable.firstRow_page_mono positive order, ?_⟩
  intro later fits
  constructor
  · intro earlier notNegative before
    exact ⟨Pageable.endRow_page_le positive fits notNegative before,
      Pageable.firstRow_page_add_one positive fits notNegative before⟩
  · intro row notNegative before
    obtain ⟨number, numberNotNegative, numberBefore, held⟩ :=
      Pageable.exists_holds positive fits notNegative before
    refine ⟨number, numberNotNegative, numberBefore, held, ?_⟩
    intro other otherNotNegative otherBefore otherHeld
    exact Pageable.eq_of_holds positive fits numberNotNegative otherNotNegative numberBefore
      otherBefore held otherHeld

/-- The last page of two rows that begins within a word, and the one before it. -/
theorem last_two_pages_are_adjacent :
    let later := Int64.ofInt 4611686018427387903
    (0 : Int64) < 2 ∧ later.toInt * (2 : Int64).toInt ≤ Int64.maxValue.toInt ∧
      (0 : Int64) ≤ later - 1 ∧ later - 1 < later ∧
      (Pageable.page (later - 1) 2).endRow ≤ (Pageable.page later 2).firstRow := by
  intro later
  have positive : (0 : Int64) < 2 := by decide
  have fits : later.toInt * (2 : Int64).toInt ≤ Int64.maxValue.toInt := by decide
  have notNegative : (0 : Int64) ≤ later - 1 := by decide
  have before : later - 1 < later := by decide
  obtain ⟨_, laid⟩ := (pages_tile_rows 2).2 positive
  exact ⟨positive, fits, notNegative, before, ((laid later fits).1 _ notNegative before).1⟩

end KeyedQuery
