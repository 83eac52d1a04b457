import Diffusion.Arithmetic
import Diffusion.Numeral.Token
import Diffusion.Random.Normal

/-!
Machine floats: coefficients of 64 bits and elements of 32 bits.
-/

namespace Diffusion

/-- The larger of two floats; when one is no number, the other. -/
def floatMax (x y : Float) : Float :=
  if x.isNaN then y else if y.isNaN then x else if x < y then y else x

/-- The larger of two elements; when one is no number, the other. -/
def float32Max (x y : Float32) : Float32 :=
  if x.isNaN then y else if y.isNaN then x else if x < y then y else x

/-- Machine floats in text. In JSON an element is positional from `1e-6` to below `1e13`, a
coefficient from `1e-5` to below `1e16`, and a tie goes to the even decimal. For a reader ties go
away from zero. -/
def floatText : NumberText Float Float32 where
  plain x := ((Numeral.decode32 x).shortest .away).plain
  logged x := ((Numeral.decode64 x.toFloat).shortest .away).general
  exponential x := ((Numeral.decode32 x).shortest .away).exponential
  wideExponential x := ((Numeral.decode64 x).shortest .away).exponential
  json? x := ((Numeral.decode32 x).shortest .toEven).json? (-6) 12
  wideJson? x := ((Numeral.decode64 x).shortest .toEven).json? (-5) 15
  ofJson? := Numeral.float32OfToken?
  wideOfJson? := Numeral.floatOfToken?
  typed? := Numeral.float32?

/-- The arithmetic that programs run with. Every operation rounds once. -/
@[reducible] def machine : Arithmetic where
  Wide := Float
  Elem := Float32
  wideOfNat := Float.ofNat
  sqrt := Float.sqrt
  wideMax := floatMax
  isPositive x := 0 < x
  isOne x := x == 1
  narrow := Float.toFloat32
  widen := Float32.toFloat
  elemOfNat := Float32.ofNat
  elemAbs := Float32.abs
  elemMax := float32Max
  below x y := x < y
  same x y := x == y
  isNaN := Float32.isNaN
  unbounded := 1 / 0
  truncate x := (Numeral.decode32 x).truncate
  normals := Random.normals
  uniforms := Random.uniforms
  text := floatText

end Diffusion
