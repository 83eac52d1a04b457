import Diffusion.Numeral.Shortest

/-!
How decimal digits are laid out as text: positionally, with an exponent, or as a JSON number.
-/

namespace Diffusion.Numeral

/-- The decimal digits of a number, most significant first. -/
def digitText (n : Nat) : String := String.ofList (Nat.toDigits 10 n)

namespace Decimal

/-- The exponent of the leading digit, as in `d.ddd * 10 ^ e`. -/
def leading (d : Decimal) : Int := (digitText d.digits).length - 1 + d.exponent

/-- Positional digits. The second argument is written after a number without fraction. -/
def positional (d : Decimal) (wholeSuffix : String) : String :=
  let digits := Nat.toDigits 10 d.digits
  if 0 ≤ d.exponent then
    String.ofList (digits ++ List.replicate d.exponent.natAbs '0') ++ wholeSuffix
  else
    let places := d.exponent.natAbs
    let padded := List.replicate (places + 1 - digits.length) '0' ++ digits
    String.ofList (padded.take (padded.length - places)) ++ "." ++
      String.ofList (padded.drop (padded.length - places))

/-- One digit, the others after a point, and the exponent. The flag puts a sign before every
exponent and not only before negative ones. -/
def scientific (d : Decimal) (alwaysSigned : Bool) : String :=
  let digits := Nat.toDigits 10 d.digits
  let fraction := digits.drop 1
  let point := if fraction.isEmpty then "" else "." ++ String.ofList fraction
  let exponent := if d.digits = 0 then 0 else d.leading
  let sign := if exponent < 0 then "-" else if alwaysSigned then "+" else ""
  String.ofList (digits.take 1) ++ point ++ "e" ++ sign ++ digitText exponent.natAbs

end Decimal

namespace DecimalValue

/-- Applies a layout to the magnitude; what is not finite has a name. -/
def layOut (finite : Decimal → String) : DecimalValue → String
  | .nan => "NaN"
  | .infinite negative => (if negative then "-" else "") ++ "inf"
  | .finite negative magnitude => (if negative then "-" else "") ++ finite magnitude

/-- Positional without an exponent, whatever the size; whole numbers have no point. -/
def plain (v : DecimalValue) : String := v.layOut (·.positional "")

/-- With an exponent, whatever the size. -/
def exponential (v : DecimalValue) : String := v.layOut (·.scientific false)

/-- Positional with a point from `1e-4` to below `1e16`, with an exponent outside this range. -/
def general (v : DecimalValue) : String :=
  v.layOut fun d =>
    if d.digits = 0 ∨ -4 ≤ d.leading ∧ d.leading ≤ 15 then d.positional ".0"
    else d.scientific false

/-- A JSON number: positional while the leading digit's exponent lies in the given range, with an
exponent outside it. JSON has no numeral for what is not finite. -/
def json? (least most : Int) : DecimalValue → Option String
  | .finite negative magnitude =>
    let positional := magnitude.digits = 0 ∨ least ≤ magnitude.leading ∧ magnitude.leading ≤ most
    some ((if negative then "-" else "") ++
      if positional then magnitude.positional ".0" else magnitude.scientific true)
  | _ => none

end DecimalValue

end Diffusion.Numeral
