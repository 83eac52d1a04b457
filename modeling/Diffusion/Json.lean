import Diffusion.Bytes.Hexadecimal

/-!
JSON values, and how they are written.

Numbers keep the numeral they are written with, so that words of 64 bits and floats pass through
unchanged. Objects keep the order of their fields, repeated ones included.
-/

namespace Diffusion

inductive Json where
  | null
  | bool (b : Bool)
  /-- A number as its numeral. -/
  | number (token : String)
  | string (s : String)
  /-- A string in which half a surrogate pair is escaped, or an object in whose names one is. It may
  be passed over but not read. -/
  | garbled
  | array (items : List Json)
  | object (fields : List (String × Json))
deriving Inhabited

namespace Json

open Bytes (hexDigit)

def nat (n : Nat) : Json := number (String.ofList (Nat.toDigits 10 n))

/-- A character inside quotes, before what follows it. Quotes, backslashes and controls are
escaped. -/
def writeChar (c : Char) (rest : List Char) : List Char :=
  if c = '"' then '\\' :: '"' :: rest
  else if c = '\\' then '\\' :: '\\' :: rest
  else if c = '\n' then '\\' :: 'n' :: rest
  else if c = '\r' then '\\' :: 'r' :: rest
  else if c = '\t' then '\\' :: 't' :: rest
  else if c = '\x08' then '\\' :: 'b' :: rest
  else if c = '\x0c' then '\\' :: 'f' :: rest
  else if c.toNat < 32 then
    '\\' :: 'u' :: '0' :: '0' :: hexDigit (c.toNat / 16) :: hexDigit (c.toNat % 16) :: rest
  else c :: rest

/-- Characters up to the closing quote, before what follows it. -/
def writeChars (cs rest : List Char) : List Char := cs.foldr writeChar ('"' :: rest)

/-- A string in quotes, before what follows it. -/
def writeString (s : String) (rest : List Char) : List Char := '"' :: writeChars s.toList rest

mutual

/-- A value without blanks, before what follows it. -/
def write : Json → List Char → List Char
  | null, rest => 'n' :: 'u' :: 'l' :: 'l' :: rest
  | bool true, rest => 't' :: 'r' :: 'u' :: 'e' :: rest
  | bool false, rest => 'f' :: 'a' :: 'l' :: 's' :: 'e' :: rest
  | number token, rest => token.toList ++ rest
  | string s, rest => writeString s rest
  | garbled, rest => writeString "" rest
  | array items, rest => '[' :: writeItems items true rest
  | object fields, rest => '\x7b' :: writeFields fields true rest

/-- The items that are left of an array, with its end. -/
def writeItems : List Json → (first : Bool) → List Char → List Char
  | [], _, rest => ']' :: rest
  | item :: items, true, rest => item.write (writeItems items false rest)
  | item :: items, false, rest => ',' :: item.write (writeItems items false rest)

/-- The fields that are left of an object, with its end. -/
def writeFields : List (String × Json) → (first : Bool) → List Char → List Char
  | [], _, rest => '\x7d' :: rest
  | (name, value) :: fields, true, rest =>
    writeString name (':' :: value.write (writeFields fields false rest))
  | (name, value) :: fields, false, rest =>
    ',' :: writeString name (':' :: value.write (writeFields fields false rest))

end

def text (j : Json) : String := String.ofList (j.write [])

end Json

end Diffusion
