import Diffusion.Proofs.Scheduler.Sound

/-!
The timesteps of a pass one by one.

Main statements: `leadingTimesteps_inside`, by which an accepted pass stays inside the training
range, and `leadingTimesteps_eq`, which counts its timesteps down in steps of the ratio.
-/

namespace Diffusion.NoiseSchedule

variable {A : Arithmetic} {s : NoiseSchedule A} {steps k : Nat} {timesteps : List A.Elem}

/-- The training timestep at a place of a pass. -/
def leading (s : NoiseSchedule A) (steps k : Nat) : Nat :=
  (steps - 1 - k) * s.stepRatio steps + s.config.stepsOffset

theorem leadingTimesteps_inside (accepted : s.leadingTimesteps steps = .ok timesteps) :
    0 < s.stepRatio steps ∧
      (steps - 1) * s.stepRatio steps + s.config.stepsOffset < s.config.numTrainTimesteps := by
  unfold leadingTimesteps at accepted
  split at accepted
  · cases accepted
  · dsimp only at accepted
    split at accepted
    · cases accepted
    · rename_i apart
      obtain ⟨top, counted, checked⟩ := Halt.bind_eq_ok_iff.mp accepted
      obtain ⟨-, rfl⟩ := Halt.checked_eq_ok_iff.mp counted
      split at checked
      · cases checked
      · rename_i inside
        exact ⟨Nat.pos_of_ne_zero apart, Nat.lt_of_not_le inside⟩

theorem leadingTimesteps_eq (accepted : s.leadingTimesteps steps = .ok timesteps) :
    timesteps = (List.range steps).map fun k => A.elemOfNat (s.leading steps k) := by
  rw [(leadingTimesteps_of_ok accepted).2]
  apply List.ext_getElem
  · simp
  · intro k _ _
    simp [leading]

theorem getElem?_leadingTimesteps (accepted : s.leadingTimesteps steps = .ok timesteps)
    {timestep : A.Elem} (found : timesteps[k]? = some timestep) :
    k < steps ∧ timestep = A.elemOfNat (s.leading steps k) := by
  rw [leadingTimesteps_eq accepted, List.getElem?_map] at found
  obtain ⟨place, there, rfl⟩ := Option.map_eq_some_iff.mp found
  obtain ⟨inside, rfl⟩ := List.getElem?_eq_some_iff.mp there
  rw [List.length_range] at inside
  rw [List.getElem_range]
  exact ⟨inside, rfl⟩

theorem leading_lt (accepted : s.leadingTimesteps steps = .ok timesteps) :
    s.leading steps k < s.config.numTrainTimesteps := by
  have inside := (leadingTimesteps_inside accepted).2
  have fewer := Nat.mul_le_mul_right (s.stepRatio steps) (Nat.sub_le (steps - 1) k)
  unfold leading
  omega

theorem leading_succ (inside : k + 1 < steps) :
    s.leading steps k = s.leading steps (k + 1) + s.stepRatio steps := by
  have rounds : steps - 1 - k = (steps - 1 - (k + 1)) + 1 := by omega
  rw [leading, leading, rounds, Nat.add_mul, Nat.one_mul]
  omega

/-- Stepping back by the ratio leads to the next timestep of the pass. -/
theorem leading_sub_ratio (more : k + 1 < steps) :
    (s.leading steps k : Int) - s.stepRatio steps = s.leading steps (k + 1) := by
  rw [leading_succ more]
  omega

theorem leading_last (s : NoiseSchedule A) (steps : Nat) :
    s.leading steps (steps - 1) = s.config.stepsOffset := by
  simp [leading]

theorem stepsOffset_le_leading (s : NoiseSchedule A) (steps k : Nat) :
    s.config.stepsOffset ≤ s.leading steps k := Nat.le_add_left _ _

theorem leading_lt_leading (apart : 0 < s.stepRatio steps) {j : Nat} (order : j < k)
    (inside : k < steps) : s.leading steps k < s.leading steps j := by
  have fewer : steps - 1 - k < steps - 1 - j := by omega
  exact Nat.add_lt_add_right (Nat.mul_lt_mul_of_pos_right fewer apart) _

theorem leading_injective (apart : 0 < s.stepRatio steps) {j : Nat} (here : j < steps)
    (there : k < steps) (same : s.leading steps j = s.leading steps k) : j = k := by
  have rounds := Nat.eq_of_mul_eq_mul_right apart (Nat.add_right_cancel same)
  omega

theorem steps_le_numTrainTimesteps (accepted : s.leadingTimesteps steps = .ok timesteps) :
    steps ≤ s.config.numTrainTimesteps := by
  obtain ⟨apart, inside⟩ := leadingTimesteps_inside accepted
  have atLeast := Nat.le_mul_of_pos_right (steps - 1) apart
  omega

end Diffusion.NoiseSchedule
