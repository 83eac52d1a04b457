/-!
Labels of domains in letters, digits and hyphens.

A label is written as its plain characters, a hyphen, and a number for every other character. The
numbers give the other characters in rising order: each says how far to go on in the sequence of
all places for all codes. A number is written with its lowest digit first, in a base that changes
from digit to digit and follows the size of the numbers before.
-/

namespace Diffusion.Url.Punycode

/-- The bias before the first number. -/
def firstBias : Nat := 72

/-- The first code that is not plain. -/
def firstCode : Nat := 128

/-- The least digit at a place that does not end a number there. -/
def threshold (place bias : Nat) : Nat := max 1 (min 26 (place - bias))

theorem threshold_pos (place bias : Nat) : 0 < threshold place bias := by
  unfold threshold; omega

/-- Brings a difference down to the size of one that two digits hold, and counts the places. -/
def settled (difference place : Nat) : Nat :=
  if 455 < difference then settled (difference / 35) (place + 36)
  else place + 36 * difference / (difference + 38)
termination_by difference
decreasing_by omega

/-- The bias after a number, which was the first or the one that made a given count of
characters. -/
def adapted (number count : Nat) (isFirst : Bool) : Nat :=
  let difference := if isFirst then number / 700 else number / 2
  settled (difference + difference / count) 0

/-- The value of a digit: letters first. -/
def digitValue? (c : Char) : Option Nat :=
  if 'a' ≤ c ∧ c ≤ 'z' then some (c.toNat - 'a'.toNat)
  else if 'A' ≤ c ∧ c ≤ 'Z' then some (c.toNat - 'A'.toNat)
  else if '0' ≤ c ∧ c ≤ '9' then some (c.toNat - '0'.toNat + 26)
  else none

/-- The digit of a value below thirty-six. -/
def digit (n : Nat) : Char := Char.ofNat (if n < 26 then 'a'.toNat + n else '0'.toNat + n - 26)

theorem digitValue?_digit {n : Nat} (small : n < 36) : digitValue? (digit n) = some n := by
  have : ∀ k : Fin 36, digitValue? (digit k) = some k.val := by decide
  exact this ⟨n, small⟩

/-- A label as far as it is read. -/
structure Reading where
  shown : List Char
  code : Nat
  /-- Where the next character of the same code could stand. -/
  index : Nat
  bias : Nat
  /-- The number that is being read, what its next digit counts, and the place of that digit. -/
  number : Nat
  weight : Nat
  place : Nat

/-- Reads a digit. The last digit of a number puts in a character. -/
def Reading.next? (r : Reading) (c : Char) : Option Reading := do
  let value ← digitValue? c
  let least := threshold r.place r.bias
  let number := r.number + value * r.weight
  if least ≤ value then
    some { r with number, weight := r.weight * (36 - least), place := r.place + 36 }
  else
    let count := r.shown.length + 1
    let code := r.code + (r.index + number) / count
    let index := (r.index + number) % count
    if code.isValidChar then
      some {
        shown := r.shown.insertIdx index (Char.ofNat code), code, index := index + 1
        bias := adapted number count (r.index = 0), number := 0, weight := 1, place := 36 }
    else none

/-- The characters of a label. The plain ones are before the last hyphen. -/
def decode? (label : List Char) : Option (List Char) := do
  let digits := (label.reverse.takeWhile (· ≠ '-')).reverse
  let plain := (label.take (label.length - digits.length)).dropLast
  let r ← digits.foldlM Reading.next? ⟨plain, firstCode, 0, firstBias, 0, 1, 36⟩
  if r.place = 36 then some r.shown else none

/-- The digits of a number from a place on. -/
def digits (bias place number : Nat) : List Char :=
  let least := threshold place bias
  if number < least then [digit number]
  else
    digit (least + (number - least) % (36 - least)) ::
      digits bias (place + 36) ((number - least) / (36 - least))
termination_by number
decreasing_by
  have positive := threshold_pos place bias
  have shrinks := Nat.div_le_self (number - threshold place bias) (36 - threshold place bias)
  omega

/-- A label as far as it is written. -/
structure Writing where
  text : List Char
  /-- How far the next number goes. -/
  number : Nat
  bias : Nat
  /-- How many characters of the label are written. -/
  count : Nat

/-- Goes over a character of the label on the way to the next place for a code. -/
def Writing.pass (code plain : Nat) (w : Writing) (c : Char) : Writing :=
  if c.toNat < code then { w with number := w.number + 1 }
  else if c.toNat = code then {
    text := w.text ++ digits w.bias 36 w.number, number := 0
    bias := adapted w.number (w.count + 1) (w.count = plain), count := w.count + 1 }
  else w

/-- The plain form of a label. -/
def encode (label : List Char) : List Char :=
  let plain := label.filter (·.toNat < firstCode)
  let codes := ((label.map Char.toNat).filter (firstCode ≤ ·)).mergeSort.eraseReps
  let start : Writing := ⟨[], 0, firstBias, plain.length⟩
  let (w, _) := codes.foldl (fun (w, next) code =>
    let w := { w with number := w.number + (code - next) * (w.count + 1) }
    let w := label.foldl (Writing.pass code plain.length) w
    ({ w with number := w.number + 1 }, code + 1)) (start, firstCode)
  plain ++ (if plain.isEmpty then [] else ['-']) ++ w.text

end Diffusion.Url.Punycode
