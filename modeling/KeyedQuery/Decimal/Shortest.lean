/-!
The shortest decimal that reads back as a given binary64 number.

A finite nonzero number is `significand * 2 ^ exponent`. The decimals that round to it form an
interval around it, whose ends belong to it when the significand is even. `shortest` looks at
ever finer decimal grids, with one significant digit, then two, up to seventeen, and takes the
first grid with a point in the interval. On one grid only the two neighbours of the number can be
nearest; the nearer one wins, and an exact tie goes to the even digit. All comparisons are made
between natural numbers, so none of them rounds.
-/

set_option autoImplicit false

namespace KeyedQuery.Decimal

/-- The magnitude `significand * 2 ^ exponent` of a binary64 number. -/
structure Binary where
  significand : Nat
  exponent : Int

/-- The decimal `digits * 10 ^ exponent`. -/
structure Scaled where
  digits : Nat
  exponent : Int
deriving DecidableEq

def signUnit : Nat :=
  Nat.pow 2 63

/-- The leading bit of the significand, which the bits of a number leave out. -/
def leadingUnit : Nat :=
  Nat.pow 2 52

def Binary.ofFloat (value : Float) : Binary :=
  let magnitude : Nat := value.toBits.toNat % signUnit
  let biased : Nat := magnitude / leadingUnit
  let fraction : Nat := magnitude % leadingUnit
  if biased = 0 then ⟨fraction, -1074⟩ else ⟨leadingUnit + fraction, Int.ofNat biased - 1075⟩

/-- Whether the sign bit is set, which it is for minus zero too. -/
def signBit (value : Float) : Bool :=
  signUnit ≤ value.toBits.toNat

namespace Binary

/-- Four times the significand: the number in quarters of its last binary place. -/
def quarters (number : Binary) : Nat :=
  4 * number.significand

/-- The lower end of the rounding interval, in quarters of the last place. Below a power of two
the neighbouring numbers lie twice as close, except where the exponent is already least. -/
def lowerQuarters (number : Binary) : Nat :=
  if number.significand = leadingUnit ∧ -1074 < number.exponent then number.quarters - 1
  else number.quarters - 2

def upperQuarters (number : Binary) : Nat :=
  number.quarters + 2

/-- A count of quarters of the last place, on the scale that it shares with the grid of step
`10 ^ step`. -/
def scaleQuarters (number : Binary) (step : Int) (quarters : Nat) : Nat :=
  quarters * Nat.pow 2 (number.exponent - 2).toNat * Nat.pow 10 (-step).toNat

def scaleStep (number : Binary) (step : Int) : Nat :=
  Nat.pow 10 step.toNat * Nat.pow 2 (2 - number.exponent).toNat

/-- Whether the decimal `digits * 10 ^ step` rounds to the number. -/
def admits (number : Binary) (step : Int) (digits : Nat) : Bool :=
  let point := digits * number.scaleStep step
  let lower := number.scaleQuarters step number.lowerQuarters
  let upper := number.scaleQuarters step number.upperQuarters
  if number.significand % 2 = 0 then lower ≤ point && point ≤ upper
  else lower < point && point < upper

/-- The point of the grid of step `10 ^ step` that is nearest to the number among those that
round to it. -/
def nearestOnGrid (number : Binary) (step : Int) : Option Nat :=
  let value := number.scaleQuarters step number.quarters
  let below := value / number.scaleStep step
  let gapBelow := value - below * number.scaleStep step
  let gapAbove := (below + 1) * number.scaleStep step - value
  let belowIsNearer := gapBelow < gapAbove || (gapBelow == gapAbove && below % 2 == 0)
  match number.admits step below, number.admits step (below + 1) with
  | true, true => some (if belowIsNearer then below else below + 1)
  | true, false => some below
  | false, true => some (below + 1)
  | false, false => none

/-- The least exponent `e` with the number below `10 ^ e`: the count of digits before the point,
which is negative when zeros follow the point. No binary64 number is below `10 ^ (-400)`. -/
def pointPosition (number : Binary) : Int :=
  let enlarged :=
    number.significand * Nat.pow 2 number.exponent.toNat * Nat.pow 10 400 /
      Nat.pow 2 (-number.exponent).toNat
  (Nat.toDigits 10 enlarged).length - 400

/-- The shortest decimal that rounds to the number. Only the coarsest grid can answer with ten,
which is then written as one digit. -/
def shortest (number : Binary) : Scaled :=
  if number.significand = 0 then ⟨0, 0⟩
  else
    let finestStep := number.pointPosition - 17
    let found := (List.range 17).findSome? fun dropped =>
      let step := number.pointPosition - Int.ofNat (dropped + 1)
      (number.nearestOnGrid step).map fun digits => Scaled.mk digits step
    let decimal := found.getD
      ⟨number.scaleQuarters finestStep number.quarters / number.scaleStep finestStep, finestStep⟩
    if decimal.digits = 10 then ⟨1, decimal.exponent + 1⟩ else decimal

end Binary

structure Layout where
  /-- The least decimal exponent of the first digit that is written positionally. -/
  leastPositional : Int
  /-- The greatest decimal exponent of the first digit that is written positionally. -/
  greatestPositional : Int

private def zeros (count : Nat) : String :=
  String.ofList (List.replicate count '0')

/-- The text of a decimal. Positional text always has a digit after the point; an exponent always
has a sign. -/
def Layout.text (layout : Layout) (decimal : Scaled) : String :=
  let digits := Nat.toDigits 10 decimal.digits
  let leading : Int := decimal.exponent + digits.length - 1
  if layout.leastPositional ≤ leading ∧ leading ≤ layout.greatestPositional then
    if 0 ≤ decimal.exponent then
      String.ofList digits ++ zeros decimal.exponent.toNat ++ ".0"
    else if 0 ≤ leading then
      let whole := leading.toNat + 1
      String.ofList (digits.take whole) ++ "." ++ String.ofList (digits.drop whole)
    else
      "0." ++ zeros (-leading - 1).toNat ++ String.ofList digits
  else
    let fraction := digits.drop 1
    let mantissa :=
      String.ofList (digits.take 1) ++
        (if fraction.isEmpty then "" else "." ++ String.ofList fraction)
    let sign := if leading < 0 then "-" else "+"
    mantissa ++ "e" ++ sign ++ Nat.repr leading.natAbs

def Layout.floatText (layout : Layout) (value : Float) : String :=
  (if signBit value then "-" else "") ++ layout.text (Binary.ofFloat value).shortest

/-! ### The characters of a text -/

/-- All characters are digits, or one of the marks that a decimal is written with besides. -/
def IsWritten (text : String) : Prop :=
  ∀ character ∈ text.toList, character.isDigit = true ∨ character ∈ ['.', 'e', '+', '-']

instance (text : String) : Decidable (IsWritten text) :=
  List.decidableBAll _ _

theorem IsWritten.append {left right : String} (leftWritten : IsWritten left)
    (rightWritten : IsWritten right) : IsWritten (left ++ right) := by
  unfold IsWritten
  rw [String.toList_append]
  exact List.forall_mem_append.mpr ⟨leftWritten, rightWritten⟩

theorem isWritten_ofList {value : Nat} {digits : List Char}
    (inside : digits ⊆ Nat.toDigits 10 value) : IsWritten (String.ofList digits) := by
  unfold IsWritten
  rw [String.toList_ofList]
  exact fun digit member => .inl (Nat.isDigit_of_mem_toDigits (by decide) (by decide) (inside member))

theorem isWritten_repr (value : Nat) : IsWritten (Nat.repr value) := by
  rw [Nat.repr_eq_ofList_toDigits]
  exact isWritten_ofList (List.Subset.refl _)

theorem isWritten_zeros (count : Nat) : IsWritten (zeros count) := by
  unfold IsWritten zeros
  rw [String.toList_ofList]
  intro character member
  rw [List.eq_of_mem_replicate member]
  exact .inl (by decide)

theorem Layout.isWritten_text (layout : Layout) (decimal : Scaled) :
    IsWritten (layout.text decimal) := by
  have digits : IsWritten (String.ofList (Nat.toDigits 10 decimal.digits)) :=
    isWritten_ofList (List.Subset.refl _)
  have leading (count : Nat) :
      IsWritten (String.ofList ((Nat.toDigits 10 decimal.digits).take count)) :=
    isWritten_ofList (List.take_subset _ _)
  have others (count : Nat) :
      IsWritten (String.ofList ((Nat.toDigits 10 decimal.digits).drop count)) :=
    isWritten_ofList (List.drop_subset _ _)
  unfold text
  dsimp only
  split
  · split
    · exact (digits.append (isWritten_zeros _)).append (by decide)
    · split
      · exact ((leading _).append (by decide)).append (others _)
      · exact ((by decide : IsWritten "0.").append (isWritten_zeros _)).append digits
  · have fraction : IsWritten (if ((Nat.toDigits 10 decimal.digits).drop 1).isEmpty then ""
        else "." ++ String.ofList ((Nat.toDigits 10 decimal.digits).drop 1)) := by
      split
      · decide
      · exact (by decide : IsWritten ".").append (others 1)
    have sign : IsWritten (if decimal.exponent + (Nat.toDigits 10 decimal.digits).length - 1 < 0
        then "-" else "+") := by
      split <;> decide
    exact ((((leading 1).append fraction).append (by decide)).append sign).append
      (isWritten_repr _)

theorem Layout.isWritten_floatText (layout : Layout) (value : Float) :
    IsWritten (layout.floatText value) := by
  have sign : IsWritten (if signBit value then "-" else "") := by
    split <;> decide
  exact sign.append (layout.isWritten_text _)

end KeyedQuery.Decimal
