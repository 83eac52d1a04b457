import Diffusion.Arithmetic
import Mathlib.Data.Real.Basic
import Mathlib.Data.Rat.Cast.CharZero
import Mathlib.Data.Rat.Sqrt

/-!
Arithmetics that do not round.

Such numbers can be read as real numbers, and their sums, products and quotients are then those of
real numbers. Rational numbers are an example on which definitions can still be evaluated. How an
arithmetic takes roots and writes numbers is not constrained here.
-/

namespace Diffusion

namespace Arithmetic

/-- The numbers of an arithmetic are real numbers, and no operation of a field rounds. Nothing is
assumed of a division by zero. -/
structure Unrounded (A : Arithmetic) (value : A.Wide → ℝ) : Prop where
  injective : Function.Injective value
  ofNat : ∀ n, value (A.wideOfNat n) = n
  add : ∀ x y, value (x + y) = value x + value y
  sub : ∀ x y, value (x - y) = value x - value y
  mul : ∀ x y, value (x * y) = value x * value y
  div : ∀ x y, value y ≠ 0 → value (x / y) = value x / value y

variable {A : Arithmetic} {value : A.Wide → ℝ} (unrounded : A.Unrounded value)

include unrounded

theorem Unrounded.foldl_add {ι : Type} (term : ι → A.Wide) (start : A.Wide) (indices : List ι) :
    value (indices.foldl (fun sum i => sum + term i) start) =
      value start + (indices.map fun i => value (term i)).sum := by
  induction indices generalizing start with
  | nil => simp
  | cons i rest ih =>
      rw [List.foldl_cons, ih, unrounded.add, List.map_cons, List.sum_cons, add_assoc]

theorem Unrounded.foldl_mul {ι : Type} (factor : ι → A.Wide) (start : A.Wide)
    (indices : List ι) :
    value (indices.foldl (fun product i => product * factor i) start) =
      value start * (indices.map fun i => value (factor i)).prod := by
  induction indices generalizing start with
  | nil => simp
  | cons i rest ih =>
      rw [List.foldl_cons, ih, unrounded.mul, List.map_cons, List.prod_cons, mul_assoc]

end Arithmetic

/-- Rational numbers, both as coefficients and as elements. Roots are taken of numerators and
denominators apart and drop the fraction. There is no number above all others, no numeral for a
fraction, and all random numbers are zero. -/
@[reducible] def rational : Arithmetic where
  Wide := ℚ
  Elem := ℚ
  wideOfNat n := n
  sqrt := Rat.sqrt
  wideMax := max
  isPositive x := 0 < x
  isOne x := x == 1
  narrow := id
  widen := id
  elemOfNat n := n
  elemAbs x := |x|
  elemMax := max
  below x y := x < y
  same x y := x == y
  isNaN _ := false
  unbounded := 0
  truncate x := max (-0x8000000000000000) (min 0x7FFFFFFFFFFFFFFF (x.num.tdiv x.den))
  normals _ count := .replicate count 0
  uniforms _ count := .replicate count 0
  text :=
    { plain := toString, logged := toString, exponential := toString
      wideExponential := toString, json? := fun _ => none, wideJson? := fun _ => none
      ofJson? := fun _ => none, wideOfJson? := fun _ => none, typed? := fun _ => none }

theorem rational_unrounded : rational.Unrounded fun x : ℚ => (x : ℝ) where
  injective := Rat.cast_injective
  ofNat := Rat.cast_natCast
  add := Rat.cast_add
  sub := Rat.cast_sub
  mul := Rat.cast_mul
  div x y _ := Rat.cast_div x y

end Diffusion
