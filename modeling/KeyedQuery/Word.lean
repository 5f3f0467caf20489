/-!
The ranges of 64-bit words.
-/

set_option autoImplicit false

namespace KeyedQuery.Word

def unsignedBound : Nat :=
  18446744073709551616

def signedBound : Nat :=
  9223372036854775808

def halfSignedBound : Nat :=
  2147483648

theorem unsignedBound_eq : unsignedBound = Nat.pow 2 64 := by decide

theorem signedBound_eq : signedBound = Nat.pow 2 63 := by decide

theorem halfSignedBound_eq : halfSignedBound = Nat.pow 2 31 := by decide

def signed? (value : Int) : Option Int64 :=
  if -Int.ofNat signedBound ≤ value ∧ value < Int.ofNat signedBound then
    some (Int64.ofInt value)
  else none

def unsigned? (value : Int) : Option UInt64 :=
  if 0 ≤ value ∧ value < Int.ofNat unsignedBound then some (UInt64.ofNat value.toNat) else none

end KeyedQuery.Word
