/-!
Quoted text.

A string is written between quotes. A quote and a backslash are written behind a backslash, five
control characters by a letter of their own, every other character below U+0020 by four
hexadecimal digits, and everything else as it is.
-/

set_option autoImplicit false

namespace KeyedQuery.Json

def hexDigit (value : Nat) : Char :=
  if value < 10 then Char.ofNat (48 + value) else Char.ofNat (87 + value)

def escapeLetter? (character : Char) : Option Char :=
  if character = '"' then some '"'
  else if character = '\\' then some '\\'
  else if character = '\x08' then some 'b'
  else if character = '\x0c' then some 'f'
  else if character = '\n' then some 'n'
  else if character = '\x0d' then some 'r'
  else if character = '\t' then some 't'
  else none

def escapeChar (character : Char) : List Char :=
  match escapeLetter? character with
  | some letter => ['\\', letter]
  | none =>
      if character.toNat < 0x20 then
        ['\\', 'u', '0', '0', hexDigit (character.toNat / 16), hexDigit (character.toNat % 16)]
      else [character]

def quote (text : String) : String :=
  String.ofList ('"' :: text.toList.flatMap escapeChar ++ ['"'])

end KeyedQuery.Json
