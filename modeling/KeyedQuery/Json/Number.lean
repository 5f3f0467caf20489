import KeyedQuery.Decimal.Integer
import KeyedQuery.Decimal.Shortest
import KeyedQuery.Word

/-!
JSON numbers.

A number keeps the kind it was written in: a whole number and a real number are never the same,
even when they measure the same quantity. A numeral is the written form, digit by digit;
`Numeral.value?` is the number that it stands for, if that is within range.
-/

set_option autoImplicit false

namespace KeyedQuery.Json

inductive Number where
  /-- A number written without a point or an exponent, between `-2^63` and `2^64 - 1`. -/
  | whole (value : Int)
  /-- Any other number, rounded to binary64. It is never infinite and always a number. -/
  | real (value : Float)

/-- Equality of data: numbers of different kinds differ, and minus zero equals zero. -/
def Number.same : Number → Number → Bool
  | .whole left, .whole right => left == right
  | .real left, .real right => left == right
  | _, _ => false

instance : BEq Number := ⟨Number.same⟩

/-- Real numbers are written positionally from `0.00001` up to sixteen digits before the point. -/
def Number.layout : Decimal.Layout :=
  ⟨-5, 15⟩

def Number.text : Number → String
  | .whole value => Decimal.integerText value
  | .real value => Number.layout.floatText value

/-- A numeral as it is written: its sign, its digits before and after the point, and its
exponent, each digit by its value. -/
structure Numeral where
  negative : Bool
  integer : List Nat
  fraction : List Nat
  /-- Whether the exponent is negative, and its digits. -/
  exponent : Option (Bool × List Nat)

namespace Numeral

/-- Whether a significand with one more digit no longer fits 64 bits. -/
def overflows (significand digit : Nat) : Bool :=
  Word.unsignedBound ≤ significand * 10 + digit

/-- The significand and the decimal exponent after the digits before the point. From the first
digit on that no longer fits, digits only raise the exponent. -/
def integerPart : Nat → List Nat → Nat × Int
  | significand, [] => (significand, 0)
  | significand, digit :: rest =>
      if overflows significand digit then (significand, Int.ofNat (rest.length + 1))
      else integerPart (significand * 10 + digit) rest

/-- The significand and the decimal exponent after the digits behind the point. From the first
digit on that no longer fits, digits are dropped. -/
def fractionPart : Nat × Int → List Nat → Nat × Int
  | parts, [] => parts
  | parts, digit :: rest =>
      if overflows parts.1 digit then parts
      else fractionPart (parts.1 * 10 + digit, parts.2 - 1) rest

def natOfDigits (digits : List Nat) : Nat :=
  digits.foldl (fun value digit => value * 10 + digit) 0

/-- Scale a binary64 number by a power of ten that one multiplication or division can apply, after
as many divisions by `1e308` as a very small exponent takes. Nothing is returned when the result
is out of range. -/
def scale? (value : Float) (exponent : Int) : Option Float :=
  if exponent.natAbs ≤ 308 then
    let power := Float.ofScientific 1 false exponent.natAbs
    if 0 ≤ exponent then
      let product := value * power
      if product.isInf then none else some product
    else some (value / power)
  else if value == 0.0 then some value
  else if 0 ≤ exponent then none
  else scale? (value / 1e308) (exponent + 308)
termination_by exponent.natAbs
decreasing_by omega

def signed (negative : Bool) (magnitude : Float) : Float :=
  if negative then -magnitude else magnitude

def isInteger (numeral : Numeral) : Bool :=
  numeral.fraction.isEmpty && numeral.exponent.isNone

/-- The real number that a numeral stands for, if it is within range. An exponent beyond the
32-bit range decides at once: the number is out of range, or it is zero. -/
def real? (numeral : Numeral) : Option Float :=
  let (significand, exponent) := fractionPart (integerPart 0 numeral.integer) numeral.fraction
  let magnitude? :=
    match numeral.exponent with
    | none => scale? (Float.ofNat significand) exponent
    | some (negative, digits) =>
        let written := natOfDigits digits
        if Word.halfSignedBound ≤ written then
          if significand ≠ 0 ∧ negative = false then none else some 0.0
        else
          scale? (Float.ofNat significand)
            (if negative then exponent - Int.ofNat written else exponent + Int.ofNat written)
  magnitude?.map (signed numeral.negative)

/-- The number that a numeral stands for, if it is within range. Minus zero, and an integer that
does not fit 64 bits, are real numbers. -/
def value? (numeral : Numeral) : Option Number :=
  let magnitude := natOfDigits numeral.integer
  if numeral.isInteger && numeral.negative &&
      (0 < magnitude && magnitude ≤ Word.signedBound) then
    some (.whole (-Int.ofNat magnitude))
  else if numeral.isInteger && !numeral.negative && magnitude < Word.unsignedBound then
    some (.whole (Int.ofNat magnitude))
  else numeral.real?.map .real

end Numeral

end KeyedQuery.Json
