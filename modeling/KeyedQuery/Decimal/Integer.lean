/-!
Integers in decimal notation.
-/

set_option autoImplicit false

namespace KeyedQuery.Decimal

def integerText (value : Int) : String :=
  if value < 0 then "-" ++ Nat.repr value.natAbs else Nat.repr value.natAbs

theorem mem_integerText {value : Int} {character : Char}
    (member : character ∈ (integerText value).toList) :
    character.isDigit = true ∨ character = '-' := by
  have digits : ∀ digit ∈ (Nat.repr value.natAbs).toList, digit.isDigit = true := by
    rw [Nat.repr_eq_ofList_toDigits, String.toList_ofList]
    exact fun digit isOne => Nat.isDigit_of_mem_toDigits (by decide) (by decide) isOne
  unfold integerText at member
  split at member
  · rw [String.toList_append, List.mem_append] at member
    rcases member with sign | digit
    · exact .inr (List.mem_singleton.mp sign)
    · exact .inl (digits character digit)
  · exact .inl (digits character member)

end KeyedQuery.Decimal
