import KeyedQuery.Dictionary
import KeyedQuery.Json.Number

/-!
JSON values.

The members of an object are listed in the order of their keys, and no key is repeated:
`Json.ofMembers` is the way to build one, and `Json.Canonical` says that every object inside a
value is of this form. `Json.same` is the equality of data; it differs from equality only in that
it does not tell minus zero from zero.
-/

set_option autoImplicit false

namespace KeyedQuery

inductive Json where
  | null
  | bool (value : Bool)
  | number (value : Json.Number)
  | string (text : String)
  | array (items : List Json)
  | object (members : List (String × Json))

namespace Json

instance : Inhabited Json := ⟨.null⟩

/-- The object with the given members, written one after another: of two members with one key the
later one stays. -/
def ofMembers (members : List (String × Json)) : Json :=
  .object (orderedEntries members)

def ofInt (value : Int) : Json :=
  .number (.whole value)

def ofNat (value : Nat) : Json :=
  .ofInt (Int.ofNat value)

def ofOption (value : Option Json) : Json :=
  value.getD .null

mutual

def same : Json → Json → Bool
  | .null, .null => true
  | .bool left, .bool right => left == right
  | .number left, .number right => left == right
  | .string left, .string right => left == right
  | .array left, .array right => sameItems left right
  | .object left, .object right => sameMembers left right
  | _, _ => false

def sameItems : List Json → List Json → Bool
  | [], [] => true
  | left :: leftRest, right :: rightRest => same left right && sameItems leftRest rightRest
  | _, _ => false

def sameMembers : List (String × Json) → List (String × Json) → Bool
  | [], [] => true
  | (leftKey, left) :: leftRest, (rightKey, right) :: rightRest =>
      leftKey == rightKey && same left right && sameMembers leftRest rightRest
  | _, _ => false

end

instance : BEq Json := ⟨same⟩

mutual

/-- Every object inside the value has its members in the order of their keys. -/
def Canonical : Json → Prop
  | .array items => CanonicalItems items
  | .object members => KeysAscend members ∧ CanonicalMembers members
  | _ => True

def CanonicalItems : List Json → Prop
  | [] => True
  | item :: rest => Canonical item ∧ CanonicalItems rest

def CanonicalMembers : List (String × Json) → Prop
  | [] => True
  | (_, value) :: rest => Canonical value ∧ CanonicalMembers rest

end

mutual

def decideCanonical : (json : Json) → Decidable json.Canonical
  | .null | .bool _ | .number _ | .string _ => .isTrue trivial
  | .array items => decideCanonicalItems items
  | .object members =>
      have := decideCanonicalMembers members
      inferInstanceAs (Decidable (KeysAscend members ∧ CanonicalMembers members))

def decideCanonicalItems : (items : List Json) → Decidable (CanonicalItems items)
  | [] => .isTrue trivial
  | item :: rest =>
      have := decideCanonical item
      have := decideCanonicalItems rest
      inferInstanceAs (Decidable (Canonical item ∧ CanonicalItems rest))

def decideCanonicalMembers :
    (members : List (String × Json)) → Decidable (CanonicalMembers members)
  | [] => .isTrue trivial
  | (_, value) :: rest =>
      have := decideCanonical value
      have := decideCanonicalMembers rest
      inferInstanceAs (Decidable (Canonical value ∧ CanonicalMembers rest))

end

instance (json : Json) : Decidable json.Canonical :=
  json.decideCanonical

def member? (key : String) : Json → Option Json
  | .object members => members.lookup key
  | _ => none

def items? : Json → Option (List Json)
  | .array items => some items
  | _ => none

def string? : Json → Option String
  | .string text => some text
  | _ => none

def bool? : Json → Option Bool
  | .bool value => some value
  | _ => none

def int? : Json → Option Int
  | .number (.whole value) => some value
  | _ => none

def isNull : Json → Bool
  | .null => true
  | _ => false

end Json

end KeyedQuery
