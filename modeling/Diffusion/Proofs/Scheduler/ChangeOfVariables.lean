import Diffusion.Proofs.Backend.Eager
import Diffusion.Proofs.Schedule.Exactness
import Diffusion.Proofs.Scheduler.ExactPass
import Diffusion.Proofs.Scheduler.Steps
import Mathlib.Tactic.FieldSimp
import Mathlib.Tactic.LinearCombination

/-!
Cumulative alphas and sigmas as two variables for one step.

A sample at the cumulative alpha `a` has the noise level `sqrt ((1 - a) / a)`, and Euler's method
works on the sample divided by `sqrt a`. Both methods predict the same clean sample and the same
noise, and both add the noise back at the next level. Main statement: `euler_advance_exact`.
-/

namespace Diffusion

/-! ### Tensors computed element by element from two -/

namespace Tensor

variable {α : Type} {x e : Tensor α} {f g : α → α → α}

theorem map_eq_zipWith (h : α → α) (same : x.shape = e.shape) :
    x.map h = x.zipWith (fun u _ => h u) e same := by
  apply ext
  · rfl
  · apply Array.ext
    · simp [zipWith, map, x.size_eq, e.size_eq, same]
    · intro i _ _
      simp [zipWith, map]

theorem eq_zipWith_left (same : x.shape = e.shape) : x = x.zipWith (fun u _ => u) e same :=
  (map_id_of (fun _ => rfl) x).symm.trans (map_eq_zipWith id same)

theorem eq_zipWith_right (same : x.shape = e.shape) : e = x.zipWith (fun _ v => v) e same := by
  apply ext
  · exact same.symm
  · apply Array.ext
    · simp [zipWith, x.size_eq, e.size_eq, same]
    · intro i _ _
      simp [zipWith]

theorem map_zipWith (h : α → α) (same : x.shape = e.shape) :
    (x.zipWith f e same).map h = x.zipWith (fun u v => h (f u v)) e same := by
  apply ext
  · rfl
  · simp [zipWith, map, Array.map_zipWith]

theorem zipWith_zipWith (h : α → α → α) (same : x.shape = e.shape) :
    (x.zipWith f e same).zipWith h (x.zipWith g e same) rfl =
      x.zipWith (fun u v => h (f u v) (g u v)) e same := by
  apply ext
  · rfl
  · apply Array.ext
    · simp [zipWith]
    · intro i _ _
      simp [zipWith]

theorem combine_zipWith {A : Arithmetic} {x e : Tensor A.Elem} {f g : A.Elem → A.Elem → A.Elem}
    (operation : String) (h : A.Elem → A.Elem → A.Elem) (same : x.shape = e.shape) :
    (x.zipWith f e same).combine operation h (x.zipWith g e same) =
      .ok (x.zipWith (fun u v => h (f u v) (g u v)) e same) := by
  have shapes : (x.zipWith f e same).shape = (x.zipWith g e same).shape := rfl
  rw [combine_same operation h shapes, zipWith_zipWith]

end Tensor

namespace Backend

variable {A : Arithmetic} {ν : Type} {network : Option (Network A ν)} {x e y z : Tensor A.Elem}
  {same : x.shape = e.shape} {f g : A.Elem → A.Elem → A.Elem}

theorem weightedPair_zipWith (c d : A.Elem) (first : y = x.zipWith f e same)
    (second : z = x.zipWith g e same) :
    (eager network).weightedSum [(c, y), (d, z)] =
      pure (x.zipWith (fun u v => f u v * c + g u v * d) e same) := by
  have scaled : ∀ (w : Tensor A.Elem) (c : A.Elem), (eager network).scale w c = pure (w.scale c) :=
    fun _ _ => rfl
  have added : (eager network).add (y.scale c) (z.scale d) =
      pure (x.zipWith (fun u v => f u v * c + g u v * d) e same) := by
    rw [first, second, Tensor.scale, Tensor.scale, Tensor.map_zipWith, Tensor.map_zipWith]
    change reported (Tensor.combine _ _ _ _) = _
    rw [Tensor.combine_zipWith]
    rfl
  simp only [weightedSum, addTerms, scaled, pure_bind, added]

theorem sub_zipWith (first : y = x.zipWith f e same) (second : z = x.zipWith g e same) :
    (eager network).sub y z = pure (x.zipWith (fun u v => f u v - g u v) e same) := by
  rw [first, second]
  change reported (Tensor.combine _ _ _ _) = _
  rw [Tensor.combine_zipWith]
  rfl

theorem scale_zipWith (c : A.Elem) (first : y = x.zipWith f e same) :
    (eager network).scale y c = pure (x.zipWith (fun u v => f u v * c) e same) := by
  rw [first]
  exact congrArg pure (Tensor.map_zipWith _ same)

end Backend

/-! ### Steps -/

/-- The clean part of a sample `u` from which the network answered `v`. -/
noncomputable def cleanPart (predicts : PredictionType) (alpha u v : ℝ) : ℝ :=
  match predicts with
  | .epsilon => u * (1 / √alpha) + v * (-√(1 - alpha) / √alpha)
  | .vPrediction => u * √alpha + v * (-√(1 - alpha))

/-- The noise in a sample `u` from which the network answered `v`. -/
noncomputable def noisePart (predicts : PredictionType) (alpha u v : ℝ) : ℝ :=
  match predicts with
  | .epsilon => v
  | .vPrediction => v * √alpha + u * √(1 - alpha)

variable {conventions : Conventions} {ν : Type} {network : Option (Network (exact conventions) ν)}
  {x e : Tensor ℝ} {k : Nat} {alpha : Nat → ℝ} {timestep : ℝ}

theorem cleanAndNoise_exact (predicts : PredictionType) (a : ℝ) (same : x.shape = e.shape) :
    cleanAndNoise (A := exact conventions) (Backend.eager network) predicts a e x =
      pure (x.zipWith (cleanPart predicts a) e same, x.zipWith (noisePart predicts a) e same) := by
  have left := Tensor.eq_zipWith_left same
  have right := Tensor.eq_zipWith_right same
  -- Literals of an arithmetic are counts, so its `1` is not yet the real number.
  have one : ((1 : Nat) : ℝ) = 1 := Nat.cast_one
  cases predicts with
  | epsilon =>
      have clean : (fun u v : ℝ =>
          u * (((1 : Nat) : ℝ) / √a) + v * (-√(((1 : Nat) : ℝ) - a) / √a)) =
          cleanPart .epsilon a := by
        funext u v
        rw [one, cleanPart]
      unfold cleanAndNoise
      simp only
      rw [Backend.weightedPair_zipWith _ _ left right, pure_bind, ← clean]
      exact congrArg (fun noise => pure (_, noise)) right
  | vPrediction =>
      have clean : (fun u v : ℝ => u * √a + v * (-√(((1 : Nat) : ℝ) - a))) =
          cleanPart .vPrediction a := by
        funext u v
        rw [one, cleanPart]
      have noise : (fun u v : ℝ => v * √a + u * √(((1 : Nat) : ℝ) - a)) =
          noisePart .vPrediction a := by
        funext u v
        rw [one, noisePart]
      unfold cleanAndNoise
      simp only
      rw [Backend.weightedPair_zipWith _ _ left right, pure_bind,
        Backend.weightedPair_zipWith _ _ right left, pure_bind, ← clean, ← noise]
      rfl

/-- The step over alphas adds the predicted noise back at the next alpha. -/
theorem Ddim.between_exact (predicts : PredictionType) (a a' : ℝ) (same : x.shape = e.shape) :
    Ddim.between (A := exact conventions) (Backend.eager network) predicts a a' e x =
      pure (x.zipWith (fun u v =>
        cleanPart predicts a u v * √a' + noisePart predicts a u v * √(1 - a')) e same) := by
  have one : ((1 : Nat) : ℝ) = 1 := Nat.cast_one
  unfold Ddim.between
  rw [cleanAndNoise_exact _ _ same, pure_bind]
  dsimp only
  rw [Backend.weightedPair_zipWith _ _ rfl rfl, ← one]
  rfl

theorem ddim_advance_exact {s : Ddim (exact conventions)} (through : s.line.Through alpha)
    (here : s.line.timesteps[k]? = some timestep) (same : x.shape = e.shape) :
    s.advance (Backend.eager network) e timestep x =
      pure (x.zipWith (fun u v =>
        cleanPart s.line.schedule.config.predictionType (alpha k) u v * √(alpha (k + 1)) +
          noisePart s.line.schedule.config.predictionType (alpha k) u v * √(1 - alpha (k + 1)))
        e same) := by
  obtain ⟨next, back, now, later⟩ := through k timestep here
  rw [Ddim.advance_eq_between _ rfl back, now, later, Ddim.between_exact _ _ _ same]

/-! ### The same step over sigmas -/

/-- The deviation of a noisy sample at a cumulative alpha: how much larger it is over sigmas. -/
noncomputable def deviationOf (alpha : ℝ) : ℝ := √(levelOf alpha * levelOf alpha + 1)

section Numbers

variable {a : ℝ} (positive : 0 < a) (proper : a < 1) (predicts : PredictionType) (u v : ℝ)

include positive proper

theorem clean_of_levelOf_epsilon :
    u * deviationOf a * 1 + v * -levelOf a = cleanPart .epsilon a u v := by
  rw [deviationOf, sqrt_levelOf positive proper.le, levelOf_eq_div positive, cleanPart]
  ring

theorem clean_of_levelOf_vPrediction :
    v * (-levelOf a / deviationOf a) + u * deviationOf a * (1 / (levelOf a * levelOf a + 1)) =
      cleanPart .vPrediction a u v := by
  have root : 0 < √a := Real.sqrt_pos.mpr positive
  have square : levelOf a * levelOf a + 1 = deviationOf a * deviationOf a :=
    (Real.mul_self_sqrt (add_nonneg (mul_self_nonneg _) zero_le_one)).symm
  rw [square, deviationOf, sqrt_levelOf positive proper.le, levelOf_eq_div positive, cleanPart]
  field_simp
  ring

theorem noise_of_levelOf :
    (u * deviationOf a - cleanPart predicts a u v) * (1 / levelOf a) =
      noisePart predicts a u v := by
  have root : 0 < √a := Real.sqrt_pos.mpr positive
  have rest : 0 < √(1 - a) := Real.sqrt_pos.mpr (sub_pos.mpr proper)
  have whole : √a * √a + √(1 - a) * √(1 - a) = 1 := by
    rw [Real.mul_self_sqrt positive.le, Real.mul_self_sqrt (sub_nonneg.mpr proper.le)]
    ring
  rw [deviationOf, sqrt_levelOf positive proper.le, levelOf_eq_div positive]
  cases predicts with
  | epsilon =>
      rw [cleanPart, noisePart]
      field_simp
      ring
  | vPrediction =>
      rw [cleanPart, noisePart]
      field_simp
      linear_combination (-u) * whole

/-- Moving along the noise from one level to the next is adding the noise back there. -/
theorem next_of_levelOf {a' : ℝ} (positive' : 0 < a') (most : a' ≤ 1) :
    u * deviationOf a * 1 + noisePart predicts a u v * (levelOf a' - levelOf a) =
      (cleanPart predicts a u v * √a' + noisePart predicts a u v * √(1 - a')) *
        deviationOf a' := by
  have root : 0 < √a' := Real.sqrt_pos.mpr positive'
  have level : 0 < levelOf a := Real.sqrt_pos.mpr (div_pos (sub_pos.mpr proper) positive)
  have sample : u * deviationOf a =
      cleanPart predicts a u v + levelOf a * noisePart predicts a u v := by
    rw [← noise_of_levelOf positive proper predicts u v]
    field_simp
    ring
  rw [sample, levelOf_eq_div positive', deviationOf, sqrt_levelOf positive' most]
  field_simp
  ring

end Numbers

section Steps

variable {a : ℝ} (positive : 0 < a) (proper : a < 1)

include positive proper

theorem cleanSample_exact (predicts : PredictionType) (same : x.shape = e.shape) :
    SigmaTrack.cleanSample (A := exact conventions) (Backend.eager network) predicts (levelOf a) e
        (x.map (· * deviationOf a)) =
      pure (x.zipWith (cleanPart predicts a) e same) := by
  have left := Tensor.map_eq_zipWith (· * deviationOf a) same
  have right := Tensor.eq_zipWith_right same
  have one : ((1 : Nat) : ℝ) = 1 := Nat.cast_one
  cases predicts with
  | epsilon =>
      have clean : (fun u v : ℝ => u * deviationOf a * ((1 : Nat) : ℝ) + v * -levelOf a) =
          cleanPart .epsilon a := by
        funext u v
        rw [one, clean_of_levelOf_epsilon positive proper]
      unfold SigmaTrack.cleanSample
      simp only
      rw [Backend.weightedPair_zipWith _ _ left right, ← clean]
      rfl
  | vPrediction =>
      have clean : (fun u v : ℝ =>
          v * (-levelOf a / √(levelOf a * levelOf a + ((1 : Nat) : ℝ))) +
            u * deviationOf a * (((1 : Nat) : ℝ) / (levelOf a * levelOf a + ((1 : Nat) : ℝ)))) =
          cleanPart .vPrediction a := by
        funext u v
        rw [one, ← clean_of_levelOf_vPrediction positive proper, deviationOf]
      unfold SigmaTrack.cleanSample
      simp only
      rw [Backend.weightedPair_zipWith _ _ right left, ← clean]
      rfl

theorem derivative_exact (track : SigmaTrack (exact conventions)) (same : x.shape = e.shape) :
    track.derivative (Backend.eager network) (levelOf a) e (x.map (· * deviationOf a)) =
      pure (x.zipWith (noisePart track.schedule.config.predictionType a) e same) := by
  have left := Tensor.map_eq_zipWith (· * deviationOf a) same
  have noise : (fun u v : ℝ => (u * deviationOf a -
      cleanPart track.schedule.config.predictionType a u v) * (((1 : Nat) : ℝ) / levelOf a)) =
      noisePart track.schedule.config.predictionType a := by
    funext u v
    rw [Nat.cast_one, noise_of_levelOf positive proper]
  unfold SigmaTrack.derivative
  rw [cleanSample_exact positive proper _ same, pure_bind, Backend.sub_zipWith left rfl, pure_bind,
    Backend.scale_zipWith _ rfl, ← noise]
  rfl

end Steps

/-- The step over sigmas of the larger sample is the larger step over alphas. -/
theorem euler_advance_exact {track : SigmaTrack (exact conventions)}
    (now : track.sigma k = .ok (levelOf (alpha k)))
    (later : track.sigma (k + 1) = .ok (levelOf (alpha (k + 1)))) (positive : 0 < alpha k)
    (proper : alpha k < 1) (positive' : 0 < alpha (k + 1)) (most : alpha (k + 1) ≤ 1)
    (same : x.shape = e.shape) :
    Euler.advance (Backend.eager network) track k e (x.map (· * deviationOf (alpha k))) =
      pure ((x.zipWith (fun u v =>
        cleanPart track.schedule.config.predictionType (alpha k) u v * √(alpha (k + 1)) +
          noisePart track.schedule.config.predictionType (alpha k) u v * √(1 - alpha (k + 1)))
        e same).map (· * deviationOf (alpha (k + 1)))) := by
  have left := Tensor.map_eq_zipWith (· * deviationOf (alpha k)) same
  have step : (fun u v : ℝ => u * deviationOf (alpha k) * ((1 : Nat) : ℝ) +
      noisePart track.schedule.config.predictionType (alpha k) u v *
        (levelOf (alpha (k + 1)) - levelOf (alpha k))) = fun u v =>
      (cleanPart track.schedule.config.predictionType (alpha k) u v * √(alpha (k + 1)) +
        noisePart track.schedule.config.predictionType (alpha k) u v * √(1 - alpha (k + 1))) *
          deviationOf (alpha (k + 1)) := by
    funext u v
    rw [Nat.cast_one, next_of_levelOf positive proper _ u v positive' most]
  unfold Euler.advance
  rw [now, Action.ofExcept_ok, pure_bind, later, Action.ofExcept_ok, pure_bind,
    derivative_exact positive proper track same, pure_bind,
    Backend.weightedPair_zipWith _ _ left rfl, Tensor.map_zipWith, ← step]
  rfl

end Diffusion
