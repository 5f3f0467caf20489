import KeyedQuery.Json.Number
import KeyedQuery.Text.Shown

/-!
What can be wrong with a JSON text.

A text can break the grammar of JSON, or it can be a value of another kind than the reader asked
for. `ReadError.message` is the one place where the causes are put into words. It names the cause
alone, and not the line and the column of the text at which it was found.
-/

set_option autoImplicit false

namespace KeyedQuery.Json

inductive Found where
  | null
  | bool (value : Bool)
  | number (value : Number)
  | string (text : String)
  | sequence
  | map

def Found.words : Found → String
  | .null => "null"
  | .bool value => if value then "boolean \x60true\x60" else "boolean \x60false\x60"
  | .number (.whole value) => "integer \x60" ++ (Number.whole value).text ++ "\x60"
  | .number (.real value) => "floating point \x60" ++ (Number.real value).text ++ "\x60"
  | .string text => "string " ++ Text.shown text
  | .sequence => "sequence"
  | .map => "map"

inductive ReadError where
  | endOfValue
  | endOfList
  | endOfObject
  | endOfString
  | expectedValue
  /-- A word begins like `true`, `false` or `null` and goes on differently. -/
  | expectedWord
  | expectedColon
  | expectedCommaOrBrace
  | expectedCommaOrBracket
  /-- A member does not begin with a string. -/
  | keyNotString
  | trailingComma
  | trailingCharacters
  | invalidNumber
  | numberOutOfRange
  | invalidEscape
  /-- The first half of a surrogate pair is not followed by another escaped code unit. -/
  | unexpectedEndOfHexEscape
  /-- An escaped surrogate has no partner. -/
  | loneSurrogate
  | controlCharacter
  | invalidType (found : Found) (expected : String)
  | duplicateField (name : String)

def ReadError.message : ReadError → String
  | .endOfValue => "EOF while parsing a value"
  | .endOfList => "EOF while parsing a list"
  | .endOfObject => "EOF while parsing an object"
  | .endOfString => "EOF while parsing a string"
  | .expectedValue => "expected value"
  | .expectedWord => "expected ident"
  | .expectedColon => "expected \x60:\x60"
  | .expectedCommaOrBrace => "expected \x60,\x60 or \x60\x7d\x60"
  | .expectedCommaOrBracket => "expected \x60,\x60 or \x60]\x60"
  | .keyNotString => "key must be a string"
  | .trailingComma => "trailing comma"
  | .trailingCharacters => "trailing characters"
  | .invalidNumber => "invalid number"
  | .numberOutOfRange => "number out of range"
  | .invalidEscape => "invalid escape"
  | .unexpectedEndOfHexEscape => "unexpected end of hex escape"
  | .loneSurrogate => "lone leading surrogate in hex escape"
  | .controlCharacter => "control character (\\u0000-\\u001F) found while parsing a string"
  | .invalidType found expected => "invalid type: " ++ found.words ++ ", expected " ++ expected
  | .duplicateField name => "duplicate field \x60" ++ name ++ "\x60"

end KeyedQuery.Json
