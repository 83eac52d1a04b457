import Diffusion.Proofs.Scheduler.Planned
import Diffusion.Proofs.Schedule.Alphas

/-!
Passes in exact numbers.

A pass over cumulative alphas and one over sigmas go through the same noise levels, although the one
steps back from a timestep by the ratio and the other looks up the next timestep. Main statements:
`Timeline.through_of_plan`, `SigmaTrack.sigma_of_plan` and `SigmaTrack.initialDeviation_of_plan`.
-/

namespace Diffusion

variable {conventions : Conventions}

namespace NoiseSchedule

variable {s : NoiseSchedule (exact conventions)} {steps k : Nat}

theorem finalAlpha_eq_one (one : s.config.setAlphaToOne = true) : (s.finalAlpha : ℝ) = 1 := by
  rw [finalAlpha, if_pos one]
  exact Nat.cast_one

theorem alphaProd_natCast (t : Nat) (final : ℝ) : s.alphaProd t final = s.clampedAlpha t := by
  rw [alphaProd, if_neg (by omega), Int.toNat_natCast]

theorem alphaProd_leading (inside : k < steps) (final : ℝ) :
    (s.alphaProd (s.leading steps k) final : ℝ) = s.passAlpha steps k := by
  rw [alphaProd_natCast, passAlpha, if_pos inside]

/-- Stepping back by the ratio leads to the next timestep of the pass, and past the last one if the
ratio is larger than the offset. -/
theorem alphaProd_back (one : s.config.setAlphaToOne = true)
    (apart : s.config.stepsOffset < s.stepRatio steps) (inside : k < steps) :
    (s.alphaProd ((s.leading steps k : Int) - s.stepRatio steps) s.finalAlpha : ℝ) =
      s.passAlpha steps (k + 1) := by
  rcases Nat.lt_or_ge (k + 1) steps with more | last
  · rw [leading_sub_ratio more, alphaProd_leading more]
  · have place : k = steps - 1 := by omega
    have offset : s.leading steps k = s.config.stepsOffset := by rw [place, leading_last]
    rw [offset, alphaProd, if_pos (by omega), finalAlpha_eq_one one, passAlpha,
      if_neg (Nat.not_lt.mpr last)]

theorem wholePart_leading (accepted : ∃ timesteps, s.leadingTimesteps steps = .ok timesteps)
    (room : s.config.numTrainTimesteps < tableLimit) :
    wholePart (s.leading steps k : ℝ) = s.leading steps k := by
  obtain ⟨timesteps, led⟩ := accepted
  have below := leading_lt (k := k) led
  have limit : tableLimit < 0x8000000000000000 := by decide
  exact wholePart_natCast (by omega)

end NoiseSchedule

/-- At each of its places a pass finds the alpha of the place and that of the next one. -/
def Timeline.Through (line : Timeline (exact conventions)) (alpha : Nat → ℝ) : Prop :=
  ∀ (k : Nat) (timestep : ℝ), line.timesteps[k]? = some timestep → ∃ next,
    line.next (wholePart timestep) = .ok next ∧
    line.schedule.alphaProd (wholePart timestep) line.schedule.finalAlpha = alpha k ∧
    line.schedule.alphaProd next line.schedule.finalAlpha = alpha (k + 1)

theorem Timeline.through_of_plan {line planned : Timeline (exact conventions)} {steps : Nat}
    (accepted : line.plan steps = .ok planned) (one : line.schedule.config.setAlphaToOne = true)
    (room : line.schedule.config.numTrainTimesteps < NoiseSchedule.tableLimit)
    (apart : line.schedule.config.stepsOffset < line.schedule.stepRatio steps) :
    planned.Through (line.schedule.passAlpha steps) := by
  obtain ⟨timesteps, led, rfl⟩ := Timeline.of_plan accepted
  intro k timestep found
  obtain ⟨inside, rfl⟩ := NoiseSchedule.getElem?_leadingTimesteps led found
  rw [NoiseSchedule.wholePart_leading ⟨timesteps, led⟩ room]
  refine ⟨_, if_pos ?_, NoiseSchedule.alphaProd_leading inside _,
    NoiseSchedule.alphaProd_back one apart inside⟩
  have ratio := line.schedule.stepRatio_le steps
  have limit : NoiseSchedule.tableLimit < 0x8000000000000000 := by decide
  dsimp only
  omega

namespace SigmaTrack

variable {s planned : SigmaTrack (exact conventions)} {steps : Nat}

/-- The sigmas of a pass are the noise levels of its alphas. The last one, for the sample without
noise, is zero. -/
theorem sigma_of_plan (accepted : s.plan steps = .ok planned)
    (room : s.schedule.config.numTrainTimesteps < NoiseSchedule.tableLimit) {k : Nat}
    (inside : k ≤ steps) : planned.sigma k = .ok (levelOf (s.schedule.passAlpha steps k)) := by
  obtain ⟨timesteps, led, rfl⟩ := of_plan accepted
  have length := NoiseSchedule.length_leadingTimesteps led
  apply Halt.entry_eq_ok_iff.mpr
  rw [Array.getElem?_push, List.size_toArray, List.length_map, length]
  split
  · rename_i last
    rw [last, NoiseSchedule.passAlpha, if_neg (lt_irrefl _), levelOf_one]
    exact congrArg some Nat.cast_zero
  · rename_i more
    have before : k < steps := by omega
    have here : timesteps[k]? = some (s.schedule.leading steps k : ℝ) := by
      rw [NoiseSchedule.leadingTimesteps_eq led, List.getElem?_map, List.getElem?_range before]
      rfl
    rw [List.getElem?_toArray, List.getElem?_map, here, NoiseSchedule.passAlpha, if_pos before]
    have part := NoiseSchedule.wholePart_leading (k := k) ⟨timesteps, led⟩ room
    change some (s.schedule.sigmaAt (wholePart (s.schedule.leading steps k : ℝ)).toNat) = _
    rw [part, Int.toNat_natCast, NoiseSchedule.sigmaAt, levelOf]
    change some √((((1 : Nat) : ℝ) - _) / _) = _
    rw [Nat.cast_one]

theorem foldl_max_eq {a x : ℝ} {xs : List ℝ} (start : a ≤ x) (most : ∀ y ∈ xs, y ≤ x)
    (reached : x ∈ xs ∨ a = x) : xs.foldl max a = x := by
  induction xs generalizing a with
  | nil => exact reached.resolve_left (List.not_mem_nil)
  | cons y rest ih =>
      obtain ⟨here, later⟩ := List.forall_mem_cons.mp most
      apply ih (max_le start here) later
      rcases reached with member | rfl
      · rcases List.mem_cons.mp member with rfl | member
        · exact .inr (max_eq_right start)
        · exact .inl member
      · exact .inr (max_eq_left here)

/-- A pass starts from the deviation of its first sigma, which is the largest. -/
theorem initialDeviation_of_plan (decays : s.schedule.Decays)
    (accepted : s.plan steps = .ok planned)
    (room : s.schedule.config.numTrainTimesteps < NoiseSchedule.tableLimit) :
    (planned.initialDeviation : ℝ) =
      √(levelOf (s.schedule.passAlpha steps 0) * levelOf (s.schedule.passAlpha steps 0) + 1) := by
  obtain ⟨positive, length, -⟩ := length_of_plan accepted
  have entry : ∀ k ≤ steps,
      planned.sigmas[k]? = some (levelOf (s.schedule.passAlpha steps k)) := fun k inside =>
    Halt.entry_eq_ok_iff.mp (sigma_of_plan accepted room inside)
  have size : planned.sigmas.size = steps + 1 := by
    rw [(sound_of_plan (exact_countsAreNumbers conventions) accepted).size_sigmas
      (List.length_pos_iff.mp (by omega)), length]
  -- Sigmas fall along the pass, so the first of them is the largest.
  have largest : planned.sigmas.foldl max ((0 : Nat) : ℝ) =
      levelOf (s.schedule.passAlpha steps 0) := by
    rw [← Array.foldl_toList]
    apply foldl_max_eq
    · rw [Nat.cast_zero]
      exact Real.sqrt_nonneg _
    · intro y member
      obtain ⟨k, inside, rfl⟩ := Array.mem_iff_getElem.mp (Array.mem_toList_iff.mp member)
      have same := entry k (by omega)
      rw [Array.getElem?_eq_getElem inside] at same
      rw [Option.some.inj same]
      exact levelOf_le_levelOf (decays.passAlpha_pos steps 0) (decays.passAlpha_zero_le positive k)
    · left
      apply Array.mem_toList_iff.mpr
      exact Array.mem_of_getElem? (entry 0 (Nat.zero_le _))
  change √(planned.sigmas.foldl max ((0 : Nat) : ℝ) * planned.sigmas.foldl max ((0 : Nat) : ℝ) +
    ((1 : Nat) : ℝ)) = _
  rw [largest, Nat.cast_one]

end SigmaTrack

end Diffusion
