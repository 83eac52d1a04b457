import Diffusion.Json

/-!
Reading JSON.

Every reader takes the characters that are left and answers with what it read and what is left
after it. The depth of the recursion is bounded by the length of the text.
-/

namespace Diffusion.Json

def isBlank (c : Char) : Bool := c == ' ' || c == '\n' || c == '\t' || c == '\r'

def skipBlanks (cs : List Char) : List Char := cs.dropWhile isBlank

def hexCode? : List Char → Option (Nat × List Char)
  | a :: b :: c :: d :: rest => do
    let a ← Bytes.hexValue? a
    let b ← Bytes.hexValue? b
    let c ← Bytes.hexValue? c
    let d ← Bytes.hexValue? d
    return (4096 * a + 256 * b + 16 * c + d, rest)
  | _ => none

/-- The character of a surrogate pair. -/
def pairedChar (high low : Nat) : Char :=
  Char.ofNat (65536 + (high - 0xd800) * 1024 + (low - 0xdc00))

/-- What an escaped code unit stands for, with what is left after it. The first half of a
surrogate pair takes the second one with it; a half alone stands for nothing. -/
def escapedUnit (unit : Nat) (rest : List Char) : Option Char × List Char :=
  if unit < 0xd800 ∨ 0xe000 ≤ unit then (some (Char.ofNat unit), rest)
  else if unit < 0xdc00 then
    match rest with
    | '\\' :: 'u' :: more =>
      match hexCode? more with
      | some (low, rest') =>
        if 0xdc00 ≤ low ∧ low < 0xe000 then (some (pairedChar unit low), rest') else (none, rest)
      | none => (none, rest)
    | _ => (none, rest)
  else (none, rest)

/-- What an escape stands for, from the character after the backslash on. -/
def escape? : List Char → Option (Option Char × List Char)
  | '"' :: rest => some (some '"', rest)
  | '\\' :: rest => some (some '\\', rest)
  | '/' :: rest => some (some '/', rest)
  | 'b' :: rest => some (some '\x08', rest)
  | 'f' :: rest => some (some '\x0c', rest)
  | 'n' :: rest => some (some '\n', rest)
  | 'r' :: rest => some (some '\r', rest)
  | 't' :: rest => some (some '\t', rest)
  | 'u' :: rest => (hexCode? rest).map fun (unit, rest) => escapedUnit unit rest
  | _ => none

/-- The characters up to the closing quote. An escape that stands for nothing makes the whole
string unreadable, which is answered with none in place of the characters. -/
def readChars : Nat → List Char → Option (Option (List Char) × List Char)
  | 0, _ => none
  | _ + 1, [] => none
  | fuel + 1, c :: rest =>
    if c = '"' then some (some [], rest)
    else if c = '\\' then do
      let (escaped, rest) ← escape? rest
      let (more, rest) ← readChars fuel rest
      return ((escaped.bind fun c => more.map (c :: ·)), rest)
    else if c.toNat < 32 then none
    else do
      let (more, rest) ← readChars fuel rest
      return (more.map (c :: ·), rest)

def readString (fuel : Nat) (cs : List Char) : Option (Option String × List Char) :=
  (readChars fuel cs).map fun (chars, rest) => (chars.map String.ofList, rest)

/-- A nonempty run of digits. -/
def readDigits (cs : List Char) : Option (List Char × List Char) :=
  let digits := cs.takeWhile Char.isDigit
  if digits.isEmpty then none else some (digits, cs.dropWhile Char.isDigit)

/-- The digits before the point: a zero alone, or any that start with another digit. -/
def readWhole : List Char → Option (List Char × List Char)
  | '0' :: rest => some (['0'], rest)
  | cs => readDigits cs

/-- The point and the digits after it, if there is a point. -/
def readFraction : List Char → Option (List Char × List Char)
  | '.' :: rest => (readDigits rest).map fun (digits, rest) => ('.' :: digits, rest)
  | cs => some ([], cs)

def readExponent : List Char → Option (List Char × List Char)
  | [] => some ([], [])
  | mark :: rest =>
    if mark = 'e' ∨ mark = 'E' then
      match rest with
      | '+' :: rest => (readDigits rest).map fun (digits, rest) => (mark :: '+' :: digits, rest)
      | '-' :: rest => (readDigits rest).map fun (digits, rest) => (mark :: '-' :: digits, rest)
      | rest => (readDigits rest).map fun (digits, rest) => (mark :: digits, rest)
    else some ([], mark :: rest)

def readUnsigned (cs : List Char) : Option (List Char × List Char) := do
  let (whole, rest) ← readWhole cs
  let (fraction, rest) ← readFraction rest
  let (exponent, rest) ← readExponent rest
  return (whole ++ fraction ++ exponent, rest)

def readNumeral : List Char → Option (List Char × List Char)
  | '-' :: rest => (readUnsigned rest).map fun (token, rest) => ('-' :: token, rest)
  | cs => readUnsigned cs

/-- What is left after a word that must come next. -/
def expect : List Char → List Char → Option (List Char)
  | [], rest => some rest
  | c :: word, d :: rest => if c = d then expect word rest else none
  | _ :: _, [] => none

mutual

def readValue : Nat → List Char → Option (Json × List Char)
  | 0, _ => none
  | fuel + 1, cs =>
    match skipBlanks cs with
    | '\x7b' :: rest =>
      match skipBlanks rest with
      | '\x7d' :: rest => some (object [], rest)
      | rest =>
        (readFields fuel rest).map fun (fields, rest) =>
          (match fields with
            | some fields => object fields
            | none => garbled, rest)
    | '[' :: rest =>
      match skipBlanks rest with
      | ']' :: rest => some (array [], rest)
      | rest => (readItems fuel rest).map fun (items, rest) => (array items, rest)
    | '"' :: rest =>
      (readString fuel rest).map fun (s, rest) =>
        (match s with
          | some s => string s
          | none => garbled, rest)
    | 'n' :: rest => (expect ['u', 'l', 'l'] rest).map fun rest => (null, rest)
    | 't' :: rest => (expect ['r', 'u', 'e'] rest).map fun rest => (bool true, rest)
    | 'f' :: rest => (expect ['a', 'l', 's', 'e'] rest).map fun rest => (bool false, rest)
    | rest => (readNumeral rest).map fun (token, rest) => (number (String.ofList token), rest)

/-- The items of an array from its first one on, and its end. -/
def readItems : Nat → List Char → Option (List Json × List Char)
  | 0, _ => none
  | fuel + 1, cs => do
    let (item, rest) ← readValue fuel cs
    match skipBlanks rest with
    | ',' :: rest =>
      let (items, rest) ← readItems fuel rest
      return (item :: items, rest)
    | ']' :: rest => return ([item], rest)
    | _ => none

/-- The fields of an object from its first one on, and its end. A name that cannot be read makes
the whole object unreadable, which is answered with none in place of the fields. -/
def readFields : Nat → List Char → Option (Option (List (String × Json)) × List Char)
  | 0, _ => none
  | fuel + 1, cs => do
    let '"' :: rest := skipBlanks cs | none
    let (name, rest) ← readString fuel rest
    let ':' :: rest := skipBlanks rest | none
    let (value, rest) ← readValue fuel rest
    match skipBlanks rest with
    | ',' :: rest =>
      let (fields, rest) ← readFields fuel rest
      return (name.bind fun name => fields.map ((name, value) :: ·), rest)
    | '\x7d' :: rest => return (name.map fun name => [(name, value)], rest)
    | _ => none

end

/-- The value that a text holds, with nothing but blanks around it. -/
def parse? (text : String) : Option Json := do
  let cs := text.toList
  let (value, rest) ← readValue (2 * cs.length + 2) cs
  if (skipBlanks rest).isEmpty then return value else none

end Diffusion.Json
