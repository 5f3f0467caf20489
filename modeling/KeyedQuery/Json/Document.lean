import KeyedQuery.Json.Basic
import KeyedQuery.Json.Lexical

/-!
JSON documents.

A document is a JSON text taken apart by the grammar alone. It keeps what a value does not: the
order of members, repeated keys, and places where the text is well formed but stands for no value
(a number out of range, a string with half a surrogate pair, nesting beyond the limit). Such a
place does no harm until something is made of it, so that members which nobody asks for are
skipped whatever they hold. `Document.value?` is the value that a document stands for.
-/

set_option autoImplicit false

namespace KeyedQuery.Json

inductive Document where
  | null
  | bool (value : Bool)
  | number (value : Number)
  | string (text : String)
  | array (items : List Document)
  /-- The members in their written order. A key without a readable text is absent. -/
  | object (members : List (Option String × Document))
  /-- A well-formed part of the text that stands for no value. -/
  | void

namespace Document

/-! ### Reading -/

def ofNumeral (numeral : Numeral) : Document :=
  match numeral.value? with
  | some value => .number value
  | none => .void

def stringText? (text : List Char) : Option String :=
  match readString text with
  | .ok (characters, _) => some characters
  | .error _ => none

def ofStringText (text : Option String) : Document :=
  match text with
  | some characters => .string characters
  | none => .void

def readKey (text : List Char) : Except ReadError (Option String × Rest text) :=
  match nextChar text with
  | none => .error .endOfObject
  | some (head, keyText) =>
      if head = '"' then
        match skipString keyText.val with
        | .error cause => .error cause
        | .ok afterKey =>
            match nextChar afterKey.val with
            | none => .error .endOfObject
            | some (mark, rest) =>
                if mark = ':' then
                  .ok (stringText? keyText.val,
                    (keyText.andThen afterKey.weaken).andThen rest.weaken)
                else .error .expectedColon
      else .error .keyNotString

mutual

/-- Read one value, in which `room` levels of arrays and objects may be nested. -/
def readValue (room : Nat) (text : List Char) : Except ReadError (Document × Rest text) :=
  match nextChar text with
  | none => .error .endOfValue
  | some (head, rest) =>
      if head = 'n' then do
        let after ← readWord ['u', 'l', 'l'] rest.val
        return (.null, rest.andThen after)
      else if head = 't' then do
        let after ← readWord ['r', 'u', 'e'] rest.val
        return (.bool true, rest.andThen after)
      else if head = 'f' then do
        let after ← readWord ['a', 'l', 's', 'e'] rest.val
        return (.bool false, rest.andThen after)
      else if beginsNumeral head then do
        let (numeral, after) ← readNumeral .invalidNumber head rest.val
        return (ofNumeral numeral, rest.andThen after)
      else if head = '"' then do
        let after ← skipString rest.val
        return (ofStringText (stringText? rest.val), rest.andThen after.weaken)
      else if head = '[' then do
        let (items, after) ← readArray (room - 1) rest.val
        return (if room = 0 then .void else .array items, rest.andThen after.weaken)
      else if head = '{' then do
        let (members, after) ← readObject (room - 1) rest.val
        return (if room = 0 then .void else .object members, rest.andThen after.weaken)
      else .error .expectedValue
termination_by (text.length, 0)
decreasing_by
  · exact Prod.Lex.left _ _ rest.property
  · exact Prod.Lex.left _ _ rest.property

def readArray (room : Nat) (text : List Char) : Except ReadError (List Document × Rest text) :=
  match nextChar text with
  | none => .error .endOfList
  | some (head, rest) => if head = ']' then .ok ([], rest) else readItems room text
termination_by (text.length, 2)

def readItems (room : Nat) (text : List Char) : Except ReadError (List Document × Rest text) :=
  match readValue room text with
  | .error cause => .error cause
  | .ok (item, afterItem) =>
      match nextChar afterItem.val with
      | none => .error .endOfList
      | some (separator, rest) =>
          if separator = ',' then do
            let (items, after) ← readItems room rest.val
            return (item :: items, (afterItem.andThen rest.weaken).andThen after.weaken)
          else if separator = ']' then .ok ([item], afterItem.andThen rest.weaken)
          else .error .expectedCommaOrBracket
termination_by (text.length, 1)
decreasing_by
  · exact Prod.Lex.right _ Nat.zero_lt_one
  · exact Prod.Lex.left _ _ (Nat.lt_trans rest.property afterItem.property)

def readObject (room : Nat) (text : List Char) :
    Except ReadError (List (Option String × Document) × Rest text) :=
  match nextChar text with
  | none => .error .endOfObject
  | some (head, rest) => if head = '}' then .ok ([], rest) else readMembers room text
termination_by (text.length, 2)

def readMembers (room : Nat) (text : List Char) :
    Except ReadError (List (Option String × Document) × Rest text) :=
  match readKey text with
  | .error cause => .error cause
  | .ok (key, afterKey) =>
      match readValue room afterKey.val with
      | .error cause => .error cause
      | .ok (value, afterValue) =>
          match nextChar afterValue.val with
          | none => .error .endOfObject
          | some (separator, rest) =>
              if separator = ',' then do
                let (members, after) ← readMembers room rest.val
                return ((key, value) :: members,
                  ((afterKey.andThen afterValue.weaken).andThen rest.weaken).andThen after.weaken)
              else if separator = '}' then
                .ok ([(key, value)], (afterKey.andThen afterValue.weaken).andThen rest.weaken)
              else .error .expectedCommaOrBrace
termination_by (text.length, 1)
decreasing_by
  · exact Prod.Lex.left _ _ afterKey.property
  · exact Prod.Lex.left _ _
      (Nat.lt_trans rest.property (Nat.lt_trans afterValue.property afterKey.property))

end

/-- The number of levels of arrays and objects that a value may be made of. -/
def nestingLimit : Nat :=
  127

def ofText (text : String) : Except ReadError Document := do
  let (document, rest) ← readValue nestingLimit text.toList
  if (nextChar rest.val).isNone then return document
  else .error .trailingCharacters

def ofText? (text : String) : Option Document :=
  match ofText text with
  | .ok document => some document
  | .error _ => none

/-! ### Values -/

mutual

/-- The value that a document stands for. Of two members with one key the later one stays. -/
def value? : Document → Option Json
  | .null => some .null
  | .bool value => some (.bool value)
  | .number value => some (.number value)
  | .string text => some (.string text)
  | .array items => (itemValues? items).map .array
  | .object members => (memberValues? members).map ofMembers
  | .void => none

def itemValues? : List Document → Option (List Json)
  | [] => some []
  | item :: rest =>
      match value? item, itemValues? rest with
      | some value, some values => some (value :: values)
      | _, _ => none

def memberValues? : List (Option String × Document) → Option (List (String × Json))
  | [] => some []
  | (key, document) :: rest =>
      match key, value? document, memberValues? rest with
      | some text, some value, some values => some ((text, value) :: values)
      | _, _, _ => none

end

mutual

def ofValue : Json → Document
  | .null => .null
  | .bool value => .bool value
  | .number value => .number value
  | .string text => .string text
  | .array items => .array (ofItems items)
  | .object members => .object (ofMembers members)

def ofItems : List Json → List Document
  | [] => []
  | item :: rest => ofValue item :: ofItems rest

def ofMembers : List (String × Json) → List (Option String × Document)
  | [] => []
  | (key, value) :: rest => (some key, ofValue value) :: ofMembers rest

end

end Document

def ofText? (text : String) : Option Json :=
  (Document.ofText? text).bind Document.value?

end KeyedQuery.Json
