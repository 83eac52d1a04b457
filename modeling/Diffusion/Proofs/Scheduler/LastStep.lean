import Diffusion.Proofs.Schedule.Acceptance
import Diffusion.Proofs.Scheduler.ChangeOfVariables

/-!
Where a pass over cumulative alphas ends.

Past the training range stands the final alpha. The step at the last timestep of a pass goes there
only if the ratio of the pass is larger than the offset; otherwise it ends at an alpha of the table,
and the noise of that alpha is left. Main statement: `last_step`.
-/

namespace Diffusion

variable {A : Arithmetic} {config : ScheduleConfig A} {line pass : Timeline A} {steps : Nat}

theorem NoiseSchedule.alphaProd_sub (s : NoiseSchedule A) (t ratio : Int) (final : A.Wide) :
    s.alphaProd (t - ratio) final =
      if t < ratio then final else s.clampedAlpha (t - ratio).toNat := by
  have negative : t - ratio < 0 ↔ t < ratio := by omega
  simp only [alphaProd, negative]

theorem NoiseSchedule.alphaProd_of_nonneg (s : NoiseSchedule A) {t : Int} (positive : 0 ≤ t)
    (final : A.Wide) : s.alphaProd t final = s.clampedAlpha t.toNat := by
  rw [alphaProd, if_neg (Int.not_lt.mpr positive)]

section

variable (scheduled : NoiseSchedule.ofConfig config = .ok line.schedule)
  (accepted : line.plan steps = .ok pass)

include scheduled accepted

theorem Timeline.getLast_of_plan :
    pass.timesteps.getLast? = some (A.elemOfNat config.stepsOffset) := by
  obtain ⟨rfl, -⟩ := NoiseSchedule.config_of_ofConfig scheduled
  obtain ⟨timesteps, led, rfl⟩ := Timeline.of_plan accepted
  obtain ⟨positive, -⟩ := NoiseSchedule.leadingTimesteps_of_ok led
  have last : steps - 1 < steps := by omega
  rw [List.getLast?_eq_getElem?, NoiseSchedule.leadingTimesteps_eq led, List.length_map,
    List.length_range, List.getElem?_map, List.getElem?_range last, Option.map_some,
    NoiseSchedule.leading_last]

variable (counts : A.CountsAreNumbers)

include counts

theorem Timeline.next_last :
    let t := A.truncate (A.elemOfNat config.stepsOffset)
    pass.next t = .ok (t - (config.numTrainTimesteps / steps : Nat)) := by
  obtain ⟨rfl, room⟩ := NoiseSchedule.config_of_ofConfig scheduled
  obtain ⟨timesteps, led, rfl⟩ := Timeline.of_plan accepted
  intro t
  -- Nothing is known of a rounded count but that it is not negative, which is enough.
  have positive : 0 ≤ t := (counts _).2
  have within := line.schedule.stepRatio_le steps
  have limit : NoiseSchedule.tableLimit < 0x8000000000000000 := by decide
  rw [← NoiseSchedule.stepRatio_eq (NoiseSchedule.leadingTimesteps_of_ok led).1]
  exact if_pos (show -0x8000000000000000 ≤ t - line.schedule.stepRatio steps by omega)

theorem advance_last {σ τ : Type} (B : Backend A σ τ) (outputs : List τ) (output sample : τ)
    (seed : UInt64) (done : Nat) :
    let s := line.schedule
    let last := A.elemOfNat config.stepsOffset
    let t := A.truncate last
    let ratio := config.numTrainTimesteps / steps
    let start := s.clampedAlpha t.toNat
    let stop (final : A.Wide) := if t < ratio then final else s.clampedAlpha (t - ratio).toNat
    (Pndm.mk pass outputs).advance B last sample =
        Pndm.between B config.predictionType start (stop s.finalAlpha) outputs sample ∧
      (Ddim.mk pass).advance B output last sample =
        Ddim.between B config.predictionType start (stop s.finalAlpha) output sample ∧
      (Ddpm.mk pass seed done).advance B output last sample =
        Ddpm.between B config.predictionType start (stop 1)
          (if 0 < t then some (stepSeed seed done) else none) output sample := by
  have next := Timeline.next_last scheduled accepted counts
  obtain ⟨rfl, -⟩ := NoiseSchedule.config_of_ofConfig scheduled
  have same := Timeline.schedule_of_plan accepted
  intro s last t ratio start stop
  have here (final : A.Wide) : s.alphaProd t final = start :=
    s.alphaProd_of_nonneg (counts _).2 final
  have there (final : A.Wide) : s.alphaProd (t - ratio) final = stop final :=
    s.alphaProd_sub t ratio final
  refine ⟨?_, ?_, ?_⟩
  · rw [Pndm.advance_eq_between B rfl next, same, here, there]
  · rw [Ddim.advance_eq_between B rfl next, same, here, there]
  · rw [Ddpm.advance_eq_between B rfl next, same, here, there]

end

/-- The step at the last timestep of a pass ends at the final alpha if that timestep, which is the
offset as the numbers have it, is smaller than the ratio. Otherwise it ends at an entry of the
table. -/
theorem last_step (counts : A.CountsAreNumbers)
    (scheduled : NoiseSchedule.ofConfig config = .ok line.schedule)
    (accepted : line.plan steps = .ok pass) :
    let s := line.schedule
    let last := A.elemOfNat config.stepsOffset
    let t := A.truncate last
    let ratio := config.numTrainTimesteps / steps
    let start := s.clampedAlpha t.toNat
    let stop (final : A.Wide) := if t < ratio then final else s.clampedAlpha (t - ratio).toNat
    pass.timesteps.getLast? = some last ∧ pass.next t = .ok (t - ratio) ∧
      (∀ (σ τ : Type) (B : Backend A σ τ) (outputs : List τ) (output sample : τ) (seed : UInt64)
        (done : Nat),
        (Pndm.mk pass outputs).advance B last sample =
            Pndm.between B config.predictionType start (stop s.finalAlpha) outputs sample ∧
          (Ddim.mk pass).advance B output last sample =
            Ddim.between B config.predictionType start (stop s.finalAlpha) output sample ∧
          (Ddpm.mk pass seed done).advance B output last sample =
            Ddpm.between B config.predictionType start (stop 1)
              (if 0 < t then some (stepSeed seed done) else none) output sample) ∧
      (config.setAlphaToOne = true → s.finalAlpha = 1) ∧
      (∀ final, (∀ i, s.clampedAlpha i ≠ final) → (stop final = final ↔ t < ratio)) ∧
      (A.CountsExactly (2 ^ 24) → config.numTrainTimesteps ≤ 2 ^ 24 →
        (t < ratio ↔ config.stepsOffset < ratio)) := by
  have ends := Timeline.getLast_of_plan scheduled accepted
  have next := Timeline.next_last scheduled accepted counts
  have steps' (σ τ : Type) (B : Backend A σ τ) := advance_last scheduled accepted counts B
  obtain ⟨rfl, -⟩ := NoiseSchedule.config_of_ofConfig scheduled
  intro s last t ratio start stop
  refine ⟨ends, next, steps', fun one => if_pos one, ?_, ?_⟩
  · intro final others
    by_cases inside : t < ratio
    · exact iff_of_true (if_pos inside) inside
    · have entry : stop final = s.clampedAlpha (t - ratio).toNat := if_neg inside
      exact iff_of_false (entry ▸ others _) inside
  · intro exactly few
    obtain ⟨timesteps, led, -⟩ := Timeline.of_plan accepted
    have within : line.schedule.config.stepsOffset ≤ 2 ^ 24 := by
      have below := NoiseSchedule.leading_lt (k := steps - 1) led
      rw [NoiseSchedule.leading_last] at below
      exact below.le.trans few
    have same : t = line.schedule.config.stepsOffset := exactly.truncate _ within
    rw [same]
    exact Int.ofNat_lt

theorem plan_quarters {steps : Nat} (positive : 0 < steps) (few : steps ≤ 2) :
    ∃ pass schedule, NoiseSchedule.ofConfig quarters = .ok schedule ∧
      (Timeline.unplanned schedule).plan steps = .ok pass := by
  obtain ⟨schedule, scheduled⟩ := NoiseSchedule.exists_ofConfig quarters (by decide) (by decide)
  obtain ⟨configured, room⟩ := NoiseSchedule.config_of_ofConfig scheduled
  rw [← configured] at room
  have enough : steps ≤ schedule.advertised := by
    rw [NoiseSchedule.advertised, configured]
    exact few
  obtain ⟨timesteps, led⟩ := (NoiseSchedule.accepted_iff positive room).mpr
    (NoiseSchedule.stepsOffset_lt_headroom positive (by rw [configured]; exact le_rfl) enough)
  refine ⟨⟨schedule, timesteps, schedule.stepRatio steps⟩, schedule, scheduled, ?_⟩
  unfold Timeline.plan
  rw [show (Timeline.unplanned schedule).schedule = schedule from rfl, led]
  rfl

theorem truncate_offset_quarters :
    (exact .silent).truncate ((exact .silent).elemOfNat quarters.stepsOffset) = 1 :=
  wholePart_natCast (by decide)

/-- A single step through three timesteps ends at the final alpha. -/
theorem last_step_quarters :
    ∃ pass schedule, NoiseSchedule.ofConfig quarters = .ok schedule ∧
      (Timeline.unplanned schedule).plan 1 = .ok pass ∧ pass.next 1 = .ok (-2) ∧
      ∀ (σ τ : Type) (B : Backend (exact .silent) σ τ) (output sample : τ),
        (Ddim.mk pass).advance B output ((1 : Nat) : ℝ) sample =
          Ddim.between B .epsilon (schedule.clampedAlpha 1) schedule.finalAlpha output sample := by
  obtain ⟨pass, schedule, scheduled, accepted⟩ := plan_quarters Nat.one_pos (by decide)
  obtain ⟨-, next, steps, -⟩ :=
    last_step (exact_countsAreNumbers .silent) scheduled accepted
  rw [truncate_offset_quarters] at next
  refine ⟨pass, schedule, scheduled, accepted, next, fun σ τ B output sample => ?_⟩
  have stepped := (steps σ τ B [] output sample 0 0).2.1
  rw [truncate_offset_quarters] at stepped
  exact stepped

theorem cleanOnly_quarters {root alpha : ℝ} (half : √alpha = root) :
    Ddim.between (A := exact .silent) (Backend.eager (none : Option (Network (exact .silent) Unit)))
        .epsilon (1 / 16 : ℝ) alpha (.fill [1] 0) (.fill [1] 1) =
      pure (.fill [1] (4 * root)) := by
  have shapes : (Tensor.fill [1] (1 : ℝ)).shape = (Tensor.fill [1] (0 : ℝ)).shape := rfl
  have quarter : √(1 / 16 : ℝ) = 1 / 4 := by
    rw [show (1 / 16 : ℝ) = (1 / 4) ^ 2 by norm_num, Real.sqrt_sq (by norm_num)]
  rw [Ddim.between_exact _ _ _ shapes, half]
  apply congrArg pure
  apply Tensor.ext
  · rfl
  · change Array.zipWith _ (Array.replicate 1 1) (Array.replicate 1 0) = Array.replicate 1 _
    rw [Array.zipWith_replicate, cleanPart, noisePart, quarter]
    norm_num

/-- Of two steps the second ends at the alpha of the first training timestep. A sample in which
there is no noise is then half as large as it would be without any noise left. -/
theorem last_step_short :
    ∃ pass schedule, NoiseSchedule.ofConfig quarters = .ok schedule ∧
      (Timeline.unplanned schedule).plan 2 = .ok pass ∧
      pass.timesteps.getLast? = some ((1 : Nat) : ℝ) ∧ pass.next 1 = .ok 0 ∧
      (schedule.finalAlpha : ℝ) = 1 ∧
      (∀ (σ τ : Type) (B : Backend (exact .silent) σ τ) (outputs : List τ) (output sample : τ)
        (seed : UInt64) (done : Nat),
        (Pndm.mk pass outputs).advance B ((1 : Nat) : ℝ) sample =
            Pndm.between B .epsilon (1 / 16 : ℝ) (1 / 4 : ℝ) outputs sample ∧
          (Ddim.mk pass).advance B output ((1 : Nat) : ℝ) sample =
            Ddim.between B .epsilon (1 / 16 : ℝ) (1 / 4 : ℝ) output sample ∧
          (Ddpm.mk pass seed done).advance B output ((1 : Nat) : ℝ) sample =
            Ddpm.between B .epsilon (1 / 16 : ℝ) (1 / 4 : ℝ) (some (stepSeed seed done)) output
              sample) ∧
      let B := Backend.eager (none : Option (Network (exact .silent) Unit))
      let noise : Tensor ℝ := .fill [1] 0
      let sample : Tensor ℝ := .fill [1] 1
      (Ddim.mk pass).advance B noise ((1 : Nat) : ℝ) sample = pure (.fill [1] (2 : ℝ)) ∧
        Ddim.between B .epsilon (1 / 16 : ℝ) schedule.finalAlpha noise sample =
          pure (.fill [1] (4 : ℝ)) := by
  obtain ⟨pass, schedule, scheduled, accepted⟩ := plan_quarters Nat.two_pos le_rfl
  have next := Timeline.next_last scheduled accepted (exact_countsAreNumbers .silent)
  rw [truncate_offset_quarters] at next
  have final : (schedule.finalAlpha : ℝ) = 1 :=
    NoiseSchedule.finalAlpha_eq_one
      (by rw [(NoiseSchedule.config_of_ofConfig scheduled).1]; rfl)
  obtain ⟨first, second⟩ := clampedAlpha_quarters scheduled
  have steps (σ τ : Type) (B : Backend (exact .silent) σ τ) (outputs : List τ)
      (output sample : τ) (seed : UInt64) (done : Nat) :
      (Pndm.mk pass outputs).advance B ((1 : Nat) : ℝ) sample =
          Pndm.between B .epsilon (1 / 16 : ℝ) (1 / 4 : ℝ) outputs sample ∧
        (Ddim.mk pass).advance B output ((1 : Nat) : ℝ) sample =
          Ddim.between B .epsilon (1 / 16 : ℝ) (1 / 4 : ℝ) output sample ∧
        (Ddpm.mk pass seed done).advance B output ((1 : Nat) : ℝ) sample =
          Ddpm.between B .epsilon (1 / 16 : ℝ) (1 / 4 : ℝ) (some (stepSeed seed done)) output
            sample := by
    have start : (schedule.clampedAlpha (1 : Int).toNat : ℝ) = 1 / 16 := second
    have stop (final : ℝ) : (if (1 : Int) < (quarters.numTrainTimesteps / 2 : Nat) then final
        else schedule.clampedAlpha (1 - (quarters.numTrainTimesteps / 2 : Nat) : Int).toNat) =
        (1 / 4 : ℝ) := (if_neg (by decide)).trans first
    obtain ⟨pndm, ddim, ddpm⟩ := advance_last scheduled accepted
      (exact_countsAreNumbers .silent) B outputs output sample seed done
    rw [truncate_offset_quarters] at pndm ddim ddpm
    refine ⟨pndm.trans ?_, ddim.trans ?_, ddpm.trans ?_⟩
    · exact congrArg₂ (Pndm.between B .epsilon · · outputs sample) start (stop _)
    · exact congrArg₂ (Ddim.between B .epsilon · · output sample) start (stop _)
    · exact congrArg₂ (Ddpm.between B .epsilon · · (some (stepSeed seed done)) output sample) start
        (stop _)
  refine ⟨pass, schedule, scheduled, accepted, Timeline.getLast_of_plan scheduled accepted, next,
    final, steps, ?_, ?_⟩
  · have half : √(1 / 4 : ℝ) = 1 / 2 := by
      rw [show (1 / 4 : ℝ) = (1 / 2) ^ 2 by norm_num, Real.sqrt_sq (by norm_num)]
    refine (steps Unit _ _ [] _ _ 0 0).2.1.trans ?_
    rw [cleanOnly_quarters half]
    norm_num
  · rw [final, cleanOnly_quarters Real.sqrt_one, mul_one]

end Diffusion
