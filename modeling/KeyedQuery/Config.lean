import KeyedQuery.AccessPath
import KeyedQuery.Text.Blank

/-!
Configuration of query methods.

The key field must have a name that can be seen, and must not be `combined`, which stands for
criteria that are not about one field.
-/

set_option autoImplicit false

namespace KeyedQuery

structure Config where
  keyField : String := defaultKeyField
  /-- Whether prepared plans and missing projections are logged. -/
  logQueries : Bool := true
deriving DecidableEq

namespace Config

def withKeyField (keyField : String) : Config :=
  ⟨keyField, true⟩

def validate (config : Config) : Except QueryError Unit :=
  if (Text.trim config.keyField).isEmpty then
    .error (.invalidConfig "id_field must not be empty")
  else if config.keyField = combinedField then
    .error (.invalidConfig ("id_field must not be the reserved '" ++ combinedField ++ "' field"))
  else .ok ()

end Config

end KeyedQuery
