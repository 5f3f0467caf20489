import KeyedQuery.Json.Quoted
import KeyedQuery.Json.ReadError

/-!
The smallest parts of a JSON text: spaces, words, strings and numerals.

Each reader returns what it read and the rest of the text, with the proof that the rest is not
longer, or shorter where at least one character is always taken. A string is read twice in two
strengths: `skipString` only finds its end, `readString` also joins the halves of surrogate pairs
and refuses a half without its partner.
-/

set_option autoImplicit false

namespace KeyedQuery.Json

/-- What is left of a text after a part of it, which may be empty, has been read. -/
abbrev Remainder (text : List Char) : Type :=
  { rest : List Char // rest.length ≤ text.length }

/-- What is left of a text after at least one character has been read. -/
abbrev Rest (text : List Char) : Type :=
  { rest : List Char // rest.length < text.length }

def Rest.andThen {text : List Char} (rest : Rest text) (further : Remainder rest.val) : Rest text :=
  ⟨further.val, Nat.lt_of_le_of_lt further.property rest.property⟩

def Rest.weaken {text : List Char} (rest : Rest text) : Remainder text :=
  ⟨rest.val, Nat.le_of_lt rest.property⟩

/-! ### Spaces and words -/

def isSpace (character : Char) : Bool :=
  character = ' ' || character = '\t' || character = '\n' || character = '\x0d'

def skipSpaces (text : List Char) : List Char :=
  text.dropWhile isSpace

theorem length_dropWhile_le {Item : Type} (keep : Item → Bool) (items : List Item) :
    (items.dropWhile keep).length ≤ items.length :=
  (List.dropWhile_suffix keep).length_le

theorem length_skipSpaces_le (text : List Char) : (skipSpaces text).length ≤ text.length :=
  length_dropWhile_le isSpace text

theorem length_lt_of_skipSpaces_eq_cons {text rest : List Char} {head : Char}
    (leading : skipSpaces text = head :: rest) : rest.length < text.length := by
  have bound := length_skipSpaces_le text
  rw [leading] at bound
  exact bound

def nextChar (text : List Char) : Option (Char × Rest text) :=
  match leading : skipSpaces text with
  | [] => none
  | head :: rest => some (head, ⟨rest, length_lt_of_skipSpaces_eq_cons leading⟩)

def readWord : List Char → (text : List Char) → Except ReadError (Remainder text)
  | [], text => .ok ⟨text, Nat.le_refl _⟩
  | _ :: _, [] => .error .endOfValue
  | wanted :: word, head :: text =>
      if head = wanted then do
        let rest ← readWord word text
        return ⟨rest.val, Nat.le_succ_of_le rest.property⟩
      else .error .expectedWord

/-! ### Strings -/

def hexValue? (character : Char) : Option Nat :=
  if '0' ≤ character ∧ character ≤ '9' then some (character.toNat - 48)
  else if 'a' ≤ character ∧ character ≤ 'f' then some (character.toNat - 87)
  else if 'A' ≤ character ∧ character ≤ 'F' then some (character.toNat - 55)
  else none

def letterMeaning? (letter : Char) : Option Char :=
  if letter = '"' then some '"'
  else if letter = '\\' then some '\\'
  else if letter = '/' then some '/'
  else if letter = 'b' then some '\x08'
  else if letter = 'f' then some '\x0c'
  else if letter = 'n' then some '\n'
  else if letter = 'r' then some '\x0d'
  else if letter = 't' then some '\t'
  else none

def byteCount : List Char → Nat
  | [] => 0
  | head :: rest => head.utf8Size + byteCount rest

def hasFourBytes (text : List Char) : Bool :=
  4 ≤ byteCount (text.take 4)

def readUnit (text : List Char) : Except ReadError (Nat × Rest text) :=
  match text with
  | first :: second :: third :: fourth :: rest =>
      match hexValue? first, hexValue? second, hexValue? third, hexValue? fourth with
      | some a, some b, some c, some d =>
          .ok (((a * 16 + b) * 16 + c) * 16 + d, ⟨rest, by simp only [List.length_cons]; omega⟩)
      | _, _, _, _ => .error .invalidEscape
  | _ => .error (if hasFourBytes text then .invalidEscape else .endOfString)

inductive Piece where
  | char (character : Char)
  /-- An escaped code unit that is half of a surrogate pair. -/
  | half (unit : Nat)

def isLeadingHalf (unit : Nat) : Bool :=
  0xD800 ≤ unit && unit < 0xDC00

def isTrailingHalf (unit : Nat) : Bool :=
  0xDC00 ≤ unit && unit < 0xE000

def joinHalves (leading trailing : Nat) : Char :=
  Char.ofNat (0x10000 + (leading - 0xD800) * 0x400 + (trailing - 0xDC00))

def Piece.ofUnit (unit : Nat) : Piece :=
  if isLeadingHalf unit || isTrailingHalf unit then .half unit else .char (Char.ofNat unit)

def readEscape : (text : List Char) → Except ReadError (Piece × Rest text)
  | [] => .error .endOfString
  | letter :: text =>
      if letter = 'u' then do
        let (unit, rest) ← readUnit text
        return (Piece.ofUnit unit, ⟨rest.val, Nat.lt_succ_of_lt rest.property⟩)
      else
        match letterMeaning? letter with
        | some character => .ok (.char character, ⟨text, Nat.lt_succ_self _⟩)
        | none => .error .invalidEscape

/-- Read one part of a string, or nothing where the string is closed. -/
def readPiece : (text : List Char) → Except ReadError (Option Piece × Rest text)
  | [] => .error .endOfString
  | head :: text =>
      if head = '"' then .ok (none, ⟨text, Nat.lt_succ_self _⟩)
      else if head = '\\' then do
        let (piece, rest) ← readEscape text
        return (some piece, ⟨rest.val, Nat.lt_succ_of_lt rest.property⟩)
      else if head.toNat < 0x20 then .error .controlCharacter
      else .ok (some (.char head), ⟨text, Nat.lt_succ_self _⟩)

/-- Find the end of a string whose opening quote has been read. -/
def skipString (text : List Char) : Except ReadError (Rest text) :=
  match readPiece text with
  | .error cause => .error cause
  | .ok (none, rest) => .ok rest
  | .ok (some _, rest) => do
      let further ← skipString rest.val
      return rest.andThen further.weaken
termination_by text.length
decreasing_by exact rest.property

/-- Read the second half of a surrogate pair, which has to be an escaped code unit too. -/
def readTrailingHalf : (text : List Char) → Except ReadError (Nat × Rest text)
  | [] => .error .endOfString
  | head :: text =>
      if head = '\\' then
        match text with
        | [] => .error .endOfString
        | letter :: digits =>
            if letter = 'u' then do
              let (unit, rest) ← readUnit digits
              if isTrailingHalf unit then
                return (unit, ⟨rest.val, Nat.lt_succ_of_lt (Nat.lt_succ_of_lt rest.property)⟩)
              else .error .loneSurrogate
            else .error .unexpectedEndOfHexEscape
      else .error .unexpectedEndOfHexEscape

def readChars (text : List Char) : Except ReadError (List Char × Rest text) :=
  match readPiece text with
  | .error cause => .error cause
  | .ok (none, rest) => .ok ([], rest)
  | .ok (some (.char character), rest) => do
      let (characters, further) ← readChars rest.val
      return (character :: characters, rest.andThen further.weaken)
  | .ok (some (.half unit), rest) =>
      if isLeadingHalf unit then
        match readTrailingHalf rest.val with
        | .error cause => .error cause
        | .ok (trailing, afterPair) => do
            let (characters, further) ← readChars afterPair.val
            return (joinHalves unit trailing :: characters,
              (rest.andThen afterPair.weaken).andThen further.weaken)
      else .error .loneSurrogate
termination_by text.length
decreasing_by
  · exact rest.property
  · exact Nat.lt_trans afterPair.property rest.property

def readString (text : List Char) : Except ReadError (String × Rest text) := do
  let (characters, rest) ← readChars text
  return (String.ofList characters, rest)

/-! ### Numerals -/

def isDigit (character : Char) : Bool :=
  '0' ≤ character && character ≤ '9'

def digitValue (character : Char) : Nat :=
  character.toNat - 48

/-- Read a run of digits that is not empty. Where the text ends instead, `atEnd` is the cause. -/
def readDigits (atEnd : ReadError) : (text : List Char) → Except ReadError (List Nat × Rest text)
  | [] => .error atEnd
  | head :: text =>
      if isDigit head then
        .ok (digitValue head :: (text.takeWhile isDigit).map digitValue,
          ⟨text.dropWhile isDigit, Nat.lt_succ_of_le (length_dropWhile_le isDigit text)⟩)
      else .error .invalidNumber

/-- Read the digits before the point, which begin with zero only when it is the only one. -/
def readInteger (atEnd : ReadError) (text : List Char) : Except ReadError (List Nat × Rest text) := do
  let (digits, rest) ← readDigits atEnd text
  if digits.head? = some 0 ∧ 1 < digits.length then .error .invalidNumber
  else return (digits, rest)

def readFraction (atEnd : ReadError) (text : List Char) :
    Except ReadError (List Nat × Remainder text) :=
  match text with
  | [] => .ok ([], ⟨[], Nat.le_refl _⟩)
  | head :: digits =>
      if head = '.' then do
        let (fraction, rest) ← readDigits atEnd digits
        return (fraction, ⟨rest.val, Nat.le_of_lt (Nat.lt_succ_of_lt rest.property)⟩)
      else .ok ([], ⟨head :: digits, Nat.le_refl _⟩)

/-- Read the sign of an exponent, if there is one; the answer is whether it is negative. -/
def readExponentSign : (text : List Char) → Bool × Remainder text
  | [] => (false, ⟨[], Nat.le_refl _⟩)
  | head :: text =>
      if head = '-' then (true, ⟨text, Nat.le_succ _⟩)
      else if head = '+' then (false, ⟨text, Nat.le_succ _⟩)
      else (false, ⟨head :: text, Nat.le_refl _⟩)

def readExponent (atEnd : ReadError) (text : List Char) :
    Except ReadError (Option (Bool × List Nat) × Remainder text) :=
  match text with
  | [] => .ok (none, ⟨[], Nat.le_refl _⟩)
  | head :: signed =>
      if head = 'e' || head = 'E' then do
        let (negative, unsigned) := readExponentSign signed
        let (digits, rest) ← readDigits atEnd unsigned.val
        return (some (negative, digits),
          ⟨rest.val, Nat.le_of_lt (Nat.lt_succ_of_lt
            (Nat.lt_of_lt_of_le rest.property unsigned.property))⟩)
      else .ok (none, ⟨head :: signed, Nat.le_refl _⟩)

def readUnsigned (atEnd : ReadError) (negative : Bool) (text : List Char) :
    Except ReadError (Numeral × Rest text) := do
  let (integer, afterInteger) ← readInteger atEnd text
  let (fraction, afterFraction) ← readFraction atEnd afterInteger.val
  let (exponent, afterExponent) ← readExponent atEnd afterFraction.val
  return (⟨negative, integer, fraction, exponent⟩,
    afterInteger.andThen
      ⟨afterExponent.val, Nat.le_trans afterExponent.property afterFraction.property⟩)

/-- Read a numeral whose first character is `head`. Where the text ends inside it, `atEnd` is the
cause. -/
def readNumeral (atEnd : ReadError) (head : Char) (text : List Char) :
    Except ReadError (Numeral × Remainder text) :=
  if head = '-' then do
    let (numeral, rest) ← readUnsigned atEnd true text
    return (numeral, rest.weaken)
  else do
    let (numeral, rest) ← readUnsigned atEnd false (head :: text)
    return (numeral, ⟨rest.val, Nat.le_of_lt_succ rest.property⟩)

def beginsNumeral (character : Char) : Bool :=
  character = '-' || isDigit character

end KeyedQuery.Json
