import Diffusion.Proofs.Json.Numerals
import Diffusion.Schedule

/-!
Whole numbers as an arithmetic.

No operation on them rounds but division and the square root, which drop the fraction. What is
assumed of numbers elsewhere holds here, so statements over all arithmetics can be evaluated.
-/

namespace Diffusion

/-- The largest number whose square is not above a number. -/
def wholeRoot (x : Int) : Int :=
  ((List.range (x.toNat + 1)).filter fun root => root * root ≤ x.toNat).length - 1

def wholeText : NumberText Int Int where
  plain := Numeral.integerText
  logged := Numeral.integerText
  exponential := Numeral.integerText
  wideExponential := Numeral.integerText
  json? x := some (Numeral.integerText x)
  wideJson? x := some (Numeral.integerText x)
  ofJson? := Numeral.integer?
  wideOfJson? := Numeral.integer?
  typed? := Numeral.integer?

/-- Whole numbers, both as coefficients and as elements. There is no noise in them. -/
@[reducible] def whole : Arithmetic where
  Wide := Int
  Elem := Int
  wideScientific := ⟨fun digits small exponent =>
    if small then digits / Int.pow 10 exponent else digits * Int.pow 10 exponent⟩
  wideOfNat := Int.ofNat
  sqrt := wholeRoot
  wideMax := max
  isPositive x := 0 < x
  isOne x := x == 1
  narrow := id
  widen := id
  elemOfNat := Int.ofNat
  elemAbs x := x.natAbs
  elemMax := max
  below x y := x < y
  same x y := x == y
  isNaN _ := false
  unbounded := 0
  truncate := id
  normals _ count := .replicate count 0
  uniforms _ count := .replicate count 0
  text := wholeText

theorem whole_widensExactly : whole.WidensExactly := fun _ => rfl

theorem whole_oneIsUnique : whole.OneIsUnique := fun _ one => of_decide_eq_true one

theorem whole_oneIsNeutral : whole.OneIsNeutral := Int.mul_one

theorem whole_readsBack : whole.ReadsBack := by
  constructor <;>
  · rintro x s ⟨⟩
    exact Numeral.integer?_integerText x

theorem whole_writesNumerals : whole.WritesNumerals := by
  constructor <;>
  · rintro x s ⟨⟩
    exact Json.isNumeral_integerText x

/-- The schedule of Stable Diffusion models in whole numbers. All its betas are below one, so
nothing is left of them. -/
def wholeSchedule (predictionType : PredictionType) : NoiseSchedule whole where
  config := .stableDiffusion whole predictionType
  betas := .replicate 1000 (0 : Int)
  alphasCumprod := .replicate 1000 (1 : Int)
  nonempty := by simp

theorem productsOnto_replicate (done : Array Int) (n : Nat) :
    productsOnto (A := whole) done (1 : Int) (.replicate n (1 : Int)) =
      done ++ Array.replicate n (1 : Int) := by
  induction n generalizing done with
  | zero => simp [productsOnto]
  | succ n ih =>
      have same : productsOnto (A := whole) done (1 : Int) (.replicate (n + 1) (1 : Int)) =
        productsOnto (A := whole) (done.push (1 : Int)) (1 : Int) (.replicate n (1 : Int)) := rfl
      rw [same, ih]
      apply Array.toList_inj.mp
      simp [List.replicate_succ]

theorem ofConfig_stableDiffusion (predictionType : PredictionType) :
    NoiseSchedule.ofConfig (.stableDiffusion whole predictionType) =
      .ok (wholeSchedule predictionType) := by
  have betas : NoiseSchedule.betasOf (.stableDiffusion whole predictionType) =
      .replicate 1000 (0 : Int) := by
    have spread : linspace whole (0 : Int) (0 : Int) 1000 = .replicate 1000 (0 : Int) := by
      apply Array.ext
      · rw [size_linspace, Array.size_replicate]
      · intro i _ _
        simp [linspace]
    change (linspace whole (0 : Int) (0 : Int) 1000).map _ = _
    rw [spread, Array.map_replicate]
    rfl
  have products : runningProducts (A := whole)
      ((Array.replicate 1000 (0 : Int)).map fun beta => (1 : Int) - beta) =
        .replicate 1000 (1 : Int) := by
    rw [Array.map_replicate, runningProducts, Array.toList_replicate]
    exact (productsOnto_replicate #[] 1000).trans Array.empty_append
  unfold NoiseSchedule.ofConfig
  split
  · contradiction
  · have room : ¬ NoiseSchedule.tableLimit ≤
        (ScheduleConfig.stableDiffusion whole predictionType).numTrainTimesteps :=
      show ¬ NoiseSchedule.tableLimit ≤ 1000 by decide
    rw [if_neg room]
    simp only [betas]
    have tables : ∀ nonempty : 0 < (runningProducts (A := whole)
        ((Array.replicate 1000 (0 : Int)).map fun beta => (1 : Int) - beta)).size,
        (⟨.stableDiffusion whole predictionType, .replicate 1000 (0 : Int), _, nonempty⟩ :
          NoiseSchedule whole) = wholeSchedule predictionType := by
      rw [products]
      intro _
      rfl
    exact congrArg Except.ok (tables _)

/-- A training configuration in which no noise is added, so that all its numbers are whole. -/
def noiseless : ScheduleConfig whole where
  numTrainTimesteps := 4
  betaStart := 0
  betaEnd := 0
  betaSpacing := .linear
  stepsOffset := 0
  setAlphaToOne := true
  predictionType := .vPrediction

end Diffusion
