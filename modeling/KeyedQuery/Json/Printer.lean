import KeyedQuery.Json.Basic
import KeyedQuery.Json.Quoted

/-!
The compact text of a JSON value.

No blank is written, and members stand in the order in which the object lists them, which is that
of their keys.
-/

set_option autoImplicit false

namespace KeyedQuery.Json

mutual

def compact : Json → String
  | .null => "null"
  | .bool value => if value then "true" else "false"
  | .number value => value.text
  | .string value => quote value
  | .array items => "[" ++ String.intercalate "," (compactItems items) ++ "]"
  | .object members => "\x7b" ++ String.intercalate "," (compactMembers members) ++ "\x7d"

def compactItems : List Json → List String
  | [] => []
  | item :: rest => compact item :: compactItems rest

def compactMembers : List (String × Json) → List String
  | [] => []
  | (key, value) :: rest => (quote key ++ ":" ++ compact value) :: compactMembers rest

end

end KeyedQuery.Json
