import KeyedQuery.Config
import KeyedQuery.Json.Document

/-!
Configurations written as text.

A configuration is an object with two fields, or an array of their values in order; every field may
be left out. The text is read from left to right, and the first thing that is wrong decides the
error: a break of the grammar, a value of the wrong kind, or a field given twice. Members with other
names are skipped, whatever well-formed value they have.
-/

set_option autoImplicit false

namespace KeyedQuery.Config

open Json (ReadError Rest nextChar)

def keyFieldName : String :=
  "id_field"

def logQueriesName : String :=
  "log_queries"

structure Fields where
  keyField : Option String := none
  logQueries : Option Bool := none

def Fields.config (fields : Fields) : Config :=
  ⟨fields.keyField.getD defaultKeyField, fields.logQueries.getD true⟩

/-! ### Values -/

/-- The cause that the word behind a first letter gives: it is misspelt, or the value that it
stands for is of the wrong kind. -/
def misplacedWord (expected : String) (word rest : List Char) (found : Json.Found) : ReadError :=
  match Json.readWord word rest with
  | .error cause => cause
  | .ok _ => .invalidType found expected

def misplacedNumber (expected : String) (head : Char) (rest : List Char) : ReadError :=
  match Json.readNumeral .endOfValue head rest with
  | .error cause => cause
  | .ok (numeral, _) =>
      match numeral.value? with
      | some value => .invalidType (.number value) expected
      | none => .numberOutOfRange

def misplacedString (expected : String) (rest : List Char) : ReadError :=
  match Json.readString rest with
  | .error cause => cause
  | .ok (text, _) => .invalidType (.string text) expected

/-- The cause that a value gives when a value of another kind is expected. -/
def misplaced (expected : String) (head : Char) (rest : List Char) : ReadError :=
  if head = 'n' then misplacedWord expected ['u', 'l', 'l'] rest .null
  else if head = 't' then misplacedWord expected ['r', 'u', 'e'] rest (.bool true)
  else if head = 'f' then misplacedWord expected ['a', 'l', 's', 'e'] rest (.bool false)
  else if Json.beginsNumeral head then misplacedNumber expected head rest
  else if head = '"' then misplacedString expected rest
  else if head = '[' then .invalidType .sequence expected
  else if head = '{' then .invalidType .map expected
  else .expectedValue

def readStringValue (text : List Char) : Except ReadError (String × Rest text) :=
  match nextChar text with
  | none => .error .endOfValue
  | some (head, rest) =>
      if head = '"' then do
        let (value, after) ← Json.readString rest.val
        return (value, rest.andThen after.weaken)
      else .error (misplaced "a string" head rest.val)

def readBoolValue (text : List Char) : Except ReadError (Bool × Rest text) :=
  match nextChar text with
  | none => .error .endOfValue
  | some (head, rest) =>
      if head = 't' then do
        let after ← Json.readWord ['r', 'u', 'e'] rest.val
        return (true, rest.andThen after)
      else if head = 'f' then do
        let after ← Json.readWord ['a', 'l', 's', 'e'] rest.val
        return (false, rest.andThen after)
      else .error (misplaced "a boolean" head rest.val)

/-! ### Objects -/

def readColon (text : List Char) : Except ReadError (Rest text) :=
  match nextChar text with
  | none => .error .endOfObject
  | some (head, rest) => if head = ':' then .ok rest else .error .expectedColon

/-- Read the value of the member with the given key, and keep it if it is a field. -/
def readMemberValue (fields : Fields) (key : String) (text : List Char) :
    Except ReadError (Fields × Rest text) :=
  if key = keyFieldName then
    if fields.keyField.isSome then .error (.duplicateField keyFieldName)
    else do
      let afterColon ← readColon text
      let (value, after) ← readStringValue afterColon.val
      return ({ fields with keyField := some value }, afterColon.andThen after.weaken)
  else if key = logQueriesName then
    if fields.logQueries.isSome then .error (.duplicateField logQueriesName)
    else do
      let afterColon ← readColon text
      let (value, after) ← readBoolValue afterColon.val
      return ({ fields with logQueries := some value }, afterColon.andThen after.weaken)
  else do
    let afterColon ← readColon text
    let (_, after) ← Json.Document.readValue Json.Document.nestingLimit afterColon.val
    return (fields, afterColon.andThen after.weaken)

def readMember (fields : Fields) (text : List Char) : Except ReadError (Fields × Rest text) := do
  let (key, afterKey) ← Json.readString text
  let (read, after) ← readMemberValue fields key afterKey.val
  return (read, afterKey.andThen after.weaken)

def readNextQuote (text : List Char) : Except ReadError (Rest text) :=
  match nextChar text with
  | none => .error .endOfValue
  | some (head, rest) =>
      if head = '"' then .ok rest
      else if head = '}' then .error .trailingComma
      else .error .keyNotString

def readMembers (fields : Fields) (text : List Char) : Except ReadError (Fields × Rest text) :=
  match readMember fields text with
  | .error cause => .error cause
  | .ok (read, afterMember) =>
      match nextChar afterMember.val with
      | none => .error .endOfObject
      | some (separator, rest) =>
          if separator = '}' then .ok (read, afterMember.andThen rest.weaken)
          else if separator = ',' then
            match readNextQuote rest.val with
            | .error cause => .error cause
            | .ok keyText => do
                let (all, after) ← readMembers read keyText.val
                return (all,
                  ((afterMember.andThen rest.weaken).andThen keyText.weaken).andThen after.weaken)
          else .error .expectedCommaOrBrace
termination_by text.length
decreasing_by
  exact Nat.lt_trans keyText.property (Nat.lt_trans rest.property afterMember.property)

def readObject (text : List Char) : Except ReadError (Fields × Rest text) :=
  match nextChar text with
  | none => .error .endOfObject
  | some (head, rest) =>
      if head = '}' then .ok ({}, rest)
      else if head = '"' then do
        let (fields, after) ← readMembers {} rest.val
        return (fields, rest.andThen after.weaken)
      else .error .keyNotString

/-! ### Arrays -/

def closesArray (text : List Char) : Bool :=
  (nextChar text).any fun next => next.1 == ']'

def readArrayEnd (text : List Char) : Except ReadError (Rest text) :=
  match nextChar text with
  | none => .error .endOfList
  | some (head, rest) =>
      if head = ']' then .ok rest
      else if head = ',' && closesArray rest.val then .error .trailingComma
      else .error .trailingCharacters

/-- Read what follows the first item of an array: its end, or a second item and its end. -/
def readSecondItem (keyField : String) (text : List Char) :
    Except ReadError (Fields × Rest text) :=
  match nextChar text with
  | none => .error .endOfList
  | some (head, rest) =>
      if head = ']' then .ok ({ keyField := some keyField }, rest)
      else if head = ',' then
        if closesArray rest.val then .error .trailingComma
        else do
          let (logQueries, afterItem) ← readBoolValue rest.val
          let after ← readArrayEnd afterItem.val
          return ({ keyField := some keyField, logQueries := some logQueries },
            (rest.andThen afterItem.weaken).andThen after.weaken)
      else .error .expectedCommaOrBracket

def readArray (text : List Char) : Except ReadError (Fields × Rest text) :=
  match nextChar text with
  | none => .error .endOfList
  | some (head, rest) =>
      if head = ']' then .ok ({}, rest)
      else do
        let (keyField, afterItem) ← readStringValue text
        let (fields, after) ← readSecondItem keyField afterItem.val
        return (fields, afterItem.andThen after.weaken)

/-! ### Whole texts -/

def readFields (text : List Char) : Except ReadError (Fields × Rest text) :=
  match nextChar text with
  | none => .error .endOfValue
  | some (head, rest) =>
      if head = '{' then do
        let (fields, after) ← readObject rest.val
        return (fields, rest.andThen after.weaken)
      else if head = '[' then do
        let (fields, after) ← readArray rest.val
        return (fields, rest.andThen after.weaken)
      else .error (misplaced "struct RepositoryQueryConfig" head rest.val)

/-- Read a text that holds a configuration and nothing else, without accepting it. -/
def parse (text : String) : Except ReadError Config := do
  let (fields, after) ← readFields text.toList
  if (nextChar after.val).isNone then return fields.config
  else .error .trailingCharacters

def ofText (text : String) : Except QueryError Config :=
  match parse text with
  | .error cause => .error (.invalidConfig cause.message)
  | .ok config =>
      match config.validate with
      | .error cause => .error cause
      | .ok () => .ok config

end KeyedQuery.Config
