import Diffusion.Proofs.Scheduler.Sound
import Mathlib.Analysis.Real.Sqrt

/-!
Real numbers as an arithmetic.

No operation rounds, so what is equal by the laws of real numbers is equal here. How numbers are
written, and which random ones are drawn, is left open.
-/

namespace Diffusion

/-- What exact numbers leave open. -/
structure Conventions where
  text : NumberText ℝ ℝ
  normals : UInt64 → (count : Nat) → Vector ℝ count
  uniforms : UInt64 → (count : Nat) → Vector ℝ count

/-- No number is written or read, and all random numbers are zero. -/
noncomputable def Conventions.silent : Conventions where
  text :=
    { plain := fun _ => "", logged := fun _ => "", exponential := fun _ => ""
      wideExponential := fun _ => "", json? := fun _ => none, wideJson? := fun _ => none
      ofJson? := fun _ => none, wideOfJson? := fun _ => none, typed? := fun _ => none }
  normals _ count := .replicate count 0
  uniforms _ count := .replicate count 0

/-- The integer part toward zero, clamped to 64 signed bits. -/
noncomputable def wholePart (x : ℝ) : Int :=
  max (-0x8000000000000000) (min 0x7FFFFFFFFFFFFFFF (if 0 ≤ x then ⌊x⌋ else ⌈x⌉))

/-- Real numbers, both as coefficients and as elements. There is no number above all others. -/
@[reducible] noncomputable def exact (conventions : Conventions) : Arithmetic where
  Wide := ℝ
  Elem := ℝ
  wideOfNat n := n
  sqrt := Real.sqrt
  wideMax := max
  isPositive x := decide (0 < x)
  isOne x := decide (x = 1)
  narrow := id
  widen := id
  elemOfNat n := n
  elemAbs x := |x|
  elemMax := max
  below x y := decide (x < y)
  same x y := decide (x = y)
  isNaN _ := false
  unbounded := 0
  truncate := wholePart
  normals := conventions.normals
  uniforms := conventions.uniforms
  text := conventions.text

variable (conventions : Conventions)

theorem wholePart_natCast {n : Nat} (word : n < 0x8000000000000000) : wholePart n = n := by
  have positive : (0 : ℝ) ≤ n := Nat.cast_nonneg n
  rw [wholePart, if_pos positive, Int.floor_natCast]
  omega

theorem wholePart_nonneg (n : Nat) : 0 ≤ wholePart n := by
  have positive : (0 : ℝ) ≤ n := Nat.cast_nonneg n
  rw [wholePart, if_pos positive, Int.floor_natCast]
  omega

theorem exact_countsAreNumbers : (exact conventions).CountsAreNumbers :=
  fun n => ⟨decide_eq_true rfl, wholePart_nonneg n⟩

end Diffusion
