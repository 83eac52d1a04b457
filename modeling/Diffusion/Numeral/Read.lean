import Diffusion.Numeral.Layout

/-!
Reading numerals as people type them: integers of a word, and decimals rounded once to a binary
number.
-/

namespace Diffusion.Numeral

/-- The number that a nonempty row of decimal digits stands for. -/
def natOfDigits? (digits : List Char) : Option Nat :=
  if digits.isEmpty || digits.any (fun c => !c.isDigit) then none
  else some (digits.foldl (fun n c => 10 * n + (c.toNat - '0'.toNat)) 0)

/-- An unsigned number below `bound`. A plus sign may stand before it, blanks may not. -/
def unsigned? (bound : Nat) (text : String) : Option Nat :=
  let digits := match text.toList with
    | '+' :: rest => rest
    | all => all
  (natOfDigits? digits).filter (· < bound)

def integer? (text : String) : Option Int :=
  match text.toList with
  | '-' :: digits => (natOfDigits? digits).map fun n => -Int.ofNat n
  | '+' :: digits => (natOfDigits? digits).map Int.ofNat
  | digits => (natOfDigits? digits).map Int.ofNat

/-- The exponent part of a numeral: empty, or a mark and a signed number. -/
def exponent? : List Char → Option Int
  | [] => some 0
  | mark :: rest =>
    if mark ≠ 'e' ∧ mark ≠ 'E' then none
    else match rest with
      | '+' :: digits => (natOfDigits? digits).map Int.ofNat
      | '-' :: digits => (natOfDigits? digits).map fun n => -Int.ofNat n
      | digits => (natOfDigits? digits).map Int.ofNat

/-- An unsigned decimal numeral cut at its point and exponent mark. -/
structure DecimalParts where
  whole : List Char
  fraction : List Char
  exponent : Int

/-- Cuts a decimal numeral. Digits may be missing before the point or after it. -/
def decimalParts? (cs : List Char) : Option DecimalParts := do
  let whole := cs.takeWhile Char.isDigit
  let afterWhole := cs.dropWhile Char.isDigit
  let (fraction, rest) := match afterWhole with
    | '.' :: tail => (tail.takeWhile Char.isDigit, tail.dropWhile Char.isDigit)
    | _ => ([], afterWhole)
  return { whole, fraction, exponent := ← exponent? rest }

/-- A decimal with all its digits as one number, and the exponent of the last one. -/
structure Scanned where
  negative : Bool
  digits : Nat
  exponent : Int

namespace Scanned

/-- All digits of a numeral, of which there must be one. -/
def ofParts? (negative : Bool) (parts : DecimalParts) : Option Scanned := do
  let digits ← natOfDigits? (parts.whole ++ parts.fraction)
  return { negative, digits, exponent := parts.exponent - parts.fraction.length }

/-- No binary number of 32 bits lies beyond these decimal exponents, so larger ones change
nothing. -/
def exponentLimit : Int := 400

/-- The exponent brought near the range of numbers of 32 bits. -/
def clamped (s : Scanned) : Int :=
  let leading : Int := (digitText s.digits).length + s.exponent
  if leading < -exponentLimit then s.exponent - (leading + exponentLimit)
  else if exponentLimit < leading then s.exponent - (leading - exponentLimit)
  else s.exponent

/-- The nearest number of 32 bits; beyond the largest, an infinity. -/
def toFloat32 (s : Scanned) : Float32 :=
  let e := s.clamped
  let magnitude := if s.digits = 0 then 0 else Float32.ofScientific s.digits (e < 0) e.natAbs
  if s.negative then -magnitude else magnitude

end Scanned

/-- A number of 32 bits as typed by a person: a decimal, or the name of an infinity or of no
number in any case of letters. -/
def float32? (text : String) : Option Float32 :=
  let (negative, unsigned) := match text.toList with
    | '-' :: cs => (true, cs)
    | '+' :: cs => (false, cs)
    | cs => (false, cs)
  let signed (x : Float32) : Float32 := if negative then -x else x
  let name := String.ofList (unsigned.map Char.toLower)
  if name = "inf" ∨ name = "infinity" then some (signed (1 / 0))
  else if name = "nan" then some (signed (0 / 0))
  else ((decimalParts? unsigned).bind (Scanned.ofParts? negative)).map Scanned.toFloat32

end Diffusion.Numeral
