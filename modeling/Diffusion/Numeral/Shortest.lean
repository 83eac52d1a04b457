import Diffusion.Numeral.Binary

/-!
The fewest decimal digits that read back as a given binary number.

Every number in the interval that rounds to `v` reads back as `v`. The search walks decimal grids
from coarse to fine and stops at the first that has a point in this interval, which gives the
fewest digits; of several such points it takes the one next to `v`. Where two are equally near, the
writer of the number says which one it wants.
-/

namespace Diffusion.Numeral

/-- The number `digits * 10 ^ exponent`. -/
structure Decimal where
  digits : Nat
  exponent : Int
deriving DecidableEq, Repr

/-- Which of two decimals is taken for a number halfway between them. -/
inductive Tie where
  /-- The one whose last digit is even. -/
  | toEven
  /-- The one of larger magnitude. -/
  | away
deriving DecidableEq, Repr

/-- The numbers that round to one binary number, over the common unit `2 ^ unit`. The ends belong
to it when the significand is even, since ties go to the even neighbour. -/
structure Interval where
  low : Nat
  value : Nat
  high : Nat
  unit : Int
  closed : Bool

/-- The interval of `significand * 2 ^ exponent`, over a quarter of its last place. -/
def Interval.around (significand : Nat) (exponent : Int) (closeBelow : Bool) : Interval where
  low := 4 * significand - (if closeBelow then 1 else 2)
  value := 4 * significand
  high := 4 * significand + 2
  unit := exponent - 2
  closed := significand % 2 == 0

namespace Interval

/-- The factor that turns units into an integer over `10 ^ place`, as numerator and denominator. -/
def scale (i : Interval) (place : Int) : Nat × Nat :=
  let powers (base : Nat) (e : Int) : Nat × Nat :=
    if e < 0 then (1, Nat.pow base e.natAbs) else (Nat.pow base e.natAbs, 1)
  let (n₂, d₂) := powers 2 i.unit
  let (n₁₀, d₁₀) := powers 10 (-place)
  (n₂ * n₁₀, d₂ * d₁₀)

/-- The point of the grid `10 ^ place` next to the value, if one lies in the interval. -/
def gridPoint? (i : Interval) (tie : Tie) (place : Int) : Option Nat :=
  let (numerator, denominator) := i.scale place
  let inside (point : Nat) : Bool :=
    let scaled := point * denominator
    if i.closed then i.low * numerator ≤ scaled && scaled ≤ i.high * numerator
    else i.low * numerator < scaled && scaled < i.high * numerator
  let below := i.value * numerator / denominator
  let remainder := i.value * numerator % denominator
  let nearerBelow := 2 * remainder < denominator ||
    (2 * remainder == denominator && tie == .toEven && below % 2 == 0)
  match inside below, inside (below + 1) with
  | true, true => some (if nearerBelow then below else below + 1)
  | true, false => some below
  | false, true => some (below + 1)
  | false, false => none

/-- The first grid with a point, from `place` down. -/
def search (i : Interval) (tie : Tie) : Nat → Int → Decimal
  | 0, place => ⟨(i.gridPoint? tie place).getD 0, place⟩
  | fuel + 1, place =>
    match i.gridPoint? tie place with
    | some digits => ⟨digits, place⟩
    | none => i.search tie fuel (place - 1)

end Interval

/-- The shortest decimal of a positive number. The search starts above the number and the grid
`10 ^ exponent` or the integers hold the number itself, so the steps suffice. -/
def shortest (tie : Tie) (significand : Nat) (exponent : Int) (closeBelow : Bool) : Decimal :=
  if significand = 0 then ⟨0, 0⟩
  else
    let top : Int := (significand.log2 + 1 + exponent) * 30103 / 100000 + 2
    let bottom : Int := min exponent 0
    (Interval.around significand exponent closeBelow).search tie (top - bottom).toNat top

inductive DecimalValue where
  | nan
  | infinite (negative : Bool)
  | finite (negative : Bool) (magnitude : Decimal)
deriving DecidableEq, Repr

/-- The shortest decimal that reads back as the given bits. -/
def BinaryValue.shortest (tie : Tie) : BinaryValue → DecimalValue
  | .nan => .nan
  | .infinite negative => .infinite negative
  | .finite negative significand exponent closeBelow =>
    .finite negative (Numeral.shortest tie significand exponent closeBelow)

end Diffusion.Numeral
