import Diffusion.Numeral.Read

/-!
The numbers that JSON numerals stand for.

A numeral with a point or an exponent is read in two steps that each round: its leading digits, as
many as fit a word, are made a float, which is then scaled by a power of ten. So a long numeral may
come out as a neighbour of the float next to it. One with few digits and a small exponent does not,
since then both steps but the last are exact.
-/

namespace Diffusion.Numeral

/-- The word that a numeral without sign, point and exponent stands for. -/
def wordOfToken? (token : String) : Option Nat :=
  (natOfDigits? token.toList).filter (· < UInt64.size)

/-- The signed word that a numeral stands for, if it is written as one. -/
def signedOfToken? (token : String) : Option Int :=
  match token.toList with
  | '-' :: digits =>
    ((natOfDigits? digits).filter fun n => 0 < n ∧ n ≤ UInt64.size / 2).map fun n => -Int.ofNat n
  | _ => (wordOfToken? token).map Int.ofNat

/-- Appends digits to a word as long as it stays one. With it come the digits that are left. -/
def appendDigits : Nat → List Char → Nat × List Char
  | n, [] => (n, [])
  | n, c :: rest =>
    let longer := 10 * n + (c.toNat - '0'.toNat)
    if longer < UInt64.size then appendDigits longer rest else (n, c :: rest)

/-- The number `significand * 10 ^ exponent` or its negative, the significand a word. -/
structure ScaledWord where
  negative : Bool
  significand : Nat
  exponent : Int
deriving DecidableEq, Repr

/-- Cuts a decimal to the leading digits that fit a word. Digits left over before the point count
as zeros; those after it are dropped. -/
def ScaledWord.ofParts (negative : Bool) (parts : DecimalParts) : ScaledWord :=
  let (leading, zeros) := appendDigits 0 parts.whole
  let (significand, dropped) := appendDigits leading parts.fraction
  let places : Int := parts.fraction.length - dropped.length
  { negative, significand, exponent := parts.exponent + zeros.length - places }

namespace ScaledWord

/-- The binary digits of a float. -/
def precision : Nat := 53

/-- A number rounded to as many binary digits as a float has; a tie goes to the even one. -/
def rounded (n : Nat) : Nat :=
  let unit := Nat.pow 2 (n.log2 + 1 - precision)
  let below := n / unit
  if 2 * (n % unit) < unit ∨ 2 * (n % unit) = unit ∧ below % 2 = 0 then below * unit
  else (below + 1) * unit

/-- Whether a word times a power of ten is not beyond the largest float. Both are rounded before
they are multiplied. -/
def fits (w : ScaledWord) : Bool :=
  w.significand = 0 || w.exponent < 0 ||
    w.exponent ≤ 308 &&
      rounded (rounded w.significand * rounded (Nat.pow 10 w.exponent.natAbs)) < Nat.pow 2 1024

/-- The float next to a power of ten; infinity beyond `10 ^ 308`. -/
def powerOfTen (n : Nat) : Float := Float.ofScientific 1 false n

/-- A float times a power of ten. Below `10 ^ -308` the float is divided twice, and nothing is left
of a word below `10 ^ -616`. -/
def scale (x : Float) (exponent : Int) : Float :=
  if x == 0 then x
  else if 0 ≤ exponent then x * powerOfTen exponent.natAbs
  else if -308 ≤ exponent then x / powerOfTen exponent.natAbs
  else if -616 ≤ exponent then x / powerOfTen 308 / powerOfTen (exponent.natAbs - 308)
  else 0

/-- The float that a word and a power of ten make, unless it is beyond the largest. -/
def toFloat? (w : ScaledWord) : Option Float :=
  if w.fits then
    let magnitude := scale (Float.ofNat w.significand) w.exponent
    some (if w.negative then -magnitude else magnitude)
  else none

end ScaledWord

/-- The number of 64 bits that a numeral stands for, unless it is beyond the largest. -/
def floatOfToken? (token : String) : Option Float := do
  let (negative, unsigned) := match token.toList with
    | '-' :: cs => (true, cs)
    | cs => (false, cs)
  (ScaledWord.ofParts negative (← decimalParts? unsigned)).toFloat?

/-- The number of 32 bits that a numeral stands for. Words are rounded once; every other numeral
goes through 64 bits, in which it must have a place. -/
def float32OfToken? (token : String) : Option Float32 :=
  match signedOfToken? token with
  | some n => some (Float32.ofInt n)
  | none => (floatOfToken? token).map Float.toFloat32

end Diffusion.Numeral
