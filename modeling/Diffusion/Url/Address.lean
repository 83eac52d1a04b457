import Diffusion.Bytes.Hexadecimal
import Diffusion.Url.Pieces

/-!
Addresses of machines as numbers: four bytes with points between them, or eight groups of two bytes
with colons between them.
-/

namespace Diffusion.Url

/-- The number of digits in a base up to sixteen. No digits are zero. -/
def digitsValue? (base : Nat) (cs : List Char) : Option Nat :=
  cs.foldlM (fun n c => do
    let digit ← Bytes.hexValue? c
    if digit < base then some (base * n + digit) else none) 0

namespace FourBytes

/-- A number of an address: hexadecimal after `0x`, octal after another zero, else decimal. -/
def part? : List Char → Option Nat
  | [] => none
  | '0' :: c :: digits =>
    if c = 'x' ∨ c = 'X' then digitsValue? 16 digits else digitsValue? 8 (c :: digits)
  | digits => digitsValue? 10 digits

/-- The labels of a domain without the empty one after a last point. -/
def labels (domain : List Char) : List (List Char) :=
  let labels := pieces (· = '.') domain
  if labels.getLast? = some [] then labels.dropLast else labels

/-- Whether a domain ends like an address, so that it has to be one. -/
def isMeant (domain : List Char) : Bool :=
  match (labels domain).getLast? with
  | some label => !label.isEmpty && label.all Char.isDigit || (part? label).isSome
  | none => false

/-- The address of a domain that ends like one. The last number fills all the bytes that the
others leave. -/
def ofDomain? (domain : List Char) : Option Nat := do
  let numbers ← (labels domain).mapM part?
  let last ← numbers.getLast?
  let others := numbers.dropLast
  if others.length ≤ 3 ∧ others.all (· ≤ 255) ∧ last < Nat.pow 256 (4 - others.length) then
    some (others.foldl (fun sum n => 256 * sum + n) 0 * Nat.pow 256 (4 - others.length) + last)
  else none

/-- An address in four decimal numbers. -/
def text (address : Nat) : String :=
  ".".intercalate ([3, 2, 1, 0].map fun place => toString (address / Nat.pow 256 place % 256))

/-- The two groups that four decimal numbers stand for at the end of a longer address. -/
def groups? (cs : List Char) : Option (List Nat) := do
  match ← (pieces (· = '.') cs).mapM byte? with
  | [a, b, c, d] => some [256 * a + b, 256 * c + d]
  | _ => none
where
  /-- A byte in decimal, without zeros in front. -/
  byte? (digits : List Char) : Option Nat := do
    let n ← digitsValue? 10 digits
    if toString n = String.ofList digits ∧ n ≤ 255 then some n else none

end FourBytes

namespace EightGroups

/-- Groups with colons between them. The last two may be written as an address of four bytes. -/
def groups? (cs : List Char) : Option (List Nat) := do
  let texts := pieces (· = ':') cs
  let last ← texts.getLast?
  let first ← texts.dropLast.mapM group?
  let rest ← if last.contains '.' then FourBytes.groups? last else (group? last).map ([·])
  return first ++ rest
where
  /-- A group of up to four digits. -/
  group? (digits : List Char) : Option Nat :=
    if digits.isEmpty ∨ 4 < digits.length then none else digitsValue? 16 digits

/-- What is before two colons and what is after them. -/
def atGap : List Char → Option (List Char × List Char)
  | ':' :: ':' :: rest => some ([], rest)
  | c :: rest => (atGap rest).map fun (before, after) => (c :: before, after)
  | [] => none

/-- The eight groups of an address. Two colons stand for one or more groups of zero. -/
def ofText? (cs : List Char) : Option (List Nat) := do
  match atGap cs with
  | none =>
    let groups ← groups? cs
    if groups.length = 8 then some groups else none
  | some (before, after) =>
    let left ← if before.isEmpty then some [] else groups? before
    let right ← if after.isEmpty then some [] else groups? after
    if before.contains '.' ∨ 7 < left.length + right.length then none
    else some (left ++ List.replicate (8 - left.length - right.length) 0 ++ right)

/-- How many groups from a place on are zero. -/
def zerosAt (groups : List Nat) (place : Nat) : Nat :=
  ((groups.drop place).takeWhile (· = 0)).length

/-- The place of the longest run of zeros, the first of several. -/
def gap (groups : List Nat) : Nat :=
  (List.range 8).foldl (fun best place =>
    if zerosAt groups best < zerosAt groups place then place else best) 0

/-- The shortest text of an address. A single group of zero is written out. -/
def text (groups : List Nat) : String :=
  let start := gap groups
  let zeros := zerosAt groups start
  if zeros < 2 then written groups
  else written (groups.take start) ++ "::" ++ written (groups.drop (start + zeros))
where
  written (groups : List Nat) : String :=
    ":".intercalate (groups.map fun n => String.ofList (Nat.toDigits 16 n))

end EightGroups

end Diffusion.Url
