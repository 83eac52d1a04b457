import Diffusion.Proofs.Schedule.Exactness

/-!
How many steps a pass may have.

The largest timestep of a pass must stay inside the training range, and what is left of the range
above it depends on the remainder of a division: it is not the less, the more steps there are. The
refusal of a pass, however, names one count as the largest. Main statement: `accepted_counts`, which
says where the two differ.
-/

namespace Diffusion.NoiseSchedule

variable {A : Arithmetic} {config : ScheduleConfig A} {s : NoiseSchedule A} {steps : Nat}

/-- The largest count that the refusal of a pass names. -/
def advertised (s : NoiseSchedule A) : Nat := s.config.numTrainTimesteps - s.config.stepsOffset

/-- What is left of the training range from the largest timestep of a pass on, as long as nothing is
added to it. -/
def headroom (s : NoiseSchedule A) (steps : Nat) : Nat :=
  s.config.numTrainTimesteps / steps + s.config.numTrainTimesteps % steps

theorem exists_ofConfig (config : ScheduleConfig A) (some : 0 < config.numTrainTimesteps)
    (room : config.numTrainTimesteps < tableLimit) :
    ∃ s : NoiseSchedule A, ofConfig config = .ok s := by
  unfold ofConfig
  rw [dif_neg some.ne', if_neg (Nat.not_le.mpr room)]
  exact ⟨_, rfl⟩

section

variable (some : 0 < steps)

include some

theorem stepRatio_eq : s.stepRatio steps = s.config.numTrainTimesteps / steps := by
  rw [stepRatio, Nat.max_eq_left some]

/-- The rounds of a pass and the headroom fill the training range. -/
theorem rounds_add_headroom :
    (steps - 1) * s.stepRatio steps + s.headroom steps = s.config.numTrainTimesteps := by
  have divided := Nat.div_add_mod s.config.numTrainTimesteps steps
  obtain ⟨rounds, rfl⟩ := Nat.exists_eq_add_one.mpr some
  rw [Nat.add_mul, Nat.one_mul] at divided
  rw [stepRatio_eq some, headroom, Nat.add_sub_cancel]
  omega

theorem stepRatio_pos_iff : 0 < s.stepRatio steps ↔ steps ≤ s.config.numTrainTimesteps := by
  rw [stepRatio_eq some]
  exact Nat.div_pos_iff.trans (and_iff_right some)

/-! ### Acceptance -/

theorem accepted_iff (room : s.config.numTrainTimesteps < tableLimit) :
    (∃ timesteps, s.leadingTimesteps steps = .ok timesteps) ↔
      steps ≤ s.config.numTrainTimesteps ∧ s.config.stepsOffset < s.headroom steps := by
  have rounds := rounds_add_headroom (s := s) some
  constructor
  · rintro ⟨timesteps, accepted⟩
    have inside := (leadingTimesteps_inside accepted).2
    exact ⟨steps_le_numTrainTimesteps accepted, by omega⟩
  · rintro ⟨few, above⟩
    have limit : tableLimit + tableLimit < Halt.wordLimit := by decide
    rw [exists_leadingTimesteps_iff (by omega), ← stepRatio_eq some]
    exact ⟨some, few, by omega⟩

theorem le_advertised (few : steps ≤ s.config.numTrainTimesteps)
    (above : s.config.stepsOffset < s.headroom steps) : steps ≤ s.advertised := by
  have rounds := rounds_add_headroom (s := s) some
  have atLeast := Nat.le_mul_of_pos_right (steps - 1) ((stepRatio_pos_iff some).mpr few)
  unfold advertised
  omega

/-- With an offset of at most one the test passes all the counts that a refusal names. -/
theorem stepsOffset_lt_headroom (small : s.config.stepsOffset ≤ 1) (few : steps ≤ s.advertised) :
    steps ≤ s.config.numTrainTimesteps ∧ s.config.stepsOffset < s.headroom steps := by
  have most : s.advertised ≤ s.config.numTrainTimesteps := Nat.sub_le _ _
  have within := few.trans most
  have ratio : 0 < s.config.numTrainTimesteps / steps := Nat.div_pos within some
  refine ⟨within, ?_⟩
  rw [headroom]
  rcases Nat.lt_or_ge 1 (s.config.numTrainTimesteps / steps) with far | near
  · omega
  · -- Steps of length one leave as much as there are more timesteps than steps.
    have one : s.config.numTrainTimesteps / steps = 1 := by omega
    have divided := Nat.div_add_mod s.config.numTrainTimesteps steps
    rw [one, Nat.mul_one] at divided
    unfold advertised at few
    omega

/-! ### Refusal -/

/-- Whatever does not pass is refused by the same words, unless the count of the largest timestep
leaves its word. -/
theorem refused
    (outside : ¬ (steps ≤ s.config.numTrainTimesteps ∧
      s.config.stepsOffset < s.headroom steps)) :
    s.leadingTimesteps steps =
        Halt.fail (.tooManySteps s.advertised s.config.numTrainTimesteps steps) ∨
      s.leadingTimesteps steps = .error .overflow ∧
        Halt.wordLimit ≤ (steps - 1) * s.stepRatio steps + s.config.stepsOffset := by
  have rounds := rounds_add_headroom (s := s) some
  have ratio := stepRatio_pos_iff (s := s) some
  unfold leadingTimesteps advertised
  rw [if_neg some.ne']
  dsimp only
  split
  · exact .inl rfl
  · rename_i apart
    have few := ratio.mp (Nat.pos_of_ne_zero apart)
    unfold Halt.checked
    split
    · rw [Halt.bind_ok, if_pos (by omega)]
      exact .inl rfl
    · rename_i large
      exact .inr ⟨rfl, Nat.le_of_not_lt large⟩

theorem refused_of_advertised (room : s.config.numTrainTimesteps < tableLimit)
    (few : steps ≤ s.advertised) (tight : s.headroom steps ≤ s.config.stepsOffset) :
    s.leadingTimesteps steps =
      Halt.fail (.tooManySteps s.advertised s.config.numTrainTimesteps steps) := by
  refine (refused some (by omega)).resolve_right fun ⟨_, large⟩ => ?_
  have rounds := rounds_add_headroom (s := s) some
  have limit : tableLimit + tableLimit < Halt.wordLimit := by decide
  unfold advertised at few
  omega

end

/-- A pass is accepted if the headroom above its largest timestep is more than the offset. That
allows no count above the one that a refusal names, but it may refuse smaller ones, in words that
allow them. With an offset of at most one all of them are accepted. -/
theorem accepted_counts (scheduled : ofConfig config = .ok s) (some : 0 < steps) :
    let train := config.numTrainTimesteps
    let most := train - config.stepsOffset
    let headroom := train / steps + train % steps
    let accepted := fun steps => ∃ timesteps, s.leadingTimesteps steps = .ok timesteps
    (accepted steps ↔ steps ≤ train ∧ config.stepsOffset < headroom) ∧
      (accepted steps → steps ≤ most) ∧
      (steps ≤ most → headroom ≤ config.stepsOffset →
        s.leadingTimesteps steps = Halt.fail (.tooManySteps most train steps)) ∧
      (most < steps → s.leadingTimesteps steps = Halt.fail (.tooManySteps most train steps) ∨
        s.leadingTimesteps steps = .error .overflow ∧
          Halt.wordLimit ≤ (steps - 1) * (train / steps) + config.stepsOffset) ∧
      (config.stepsOffset ≤ 1 → (accepted steps ↔ steps ≤ most) ∧
        (accepted steps → ∀ fewer, 0 < fewer → fewer ≤ steps → accepted fewer)) := by
  obtain ⟨rfl, room⟩ := config_of_ofConfig scheduled
  intro train most headroom accepted
  have passes := accepted_iff (s := s) some room
  have atMost : accepted steps → steps ≤ most := fun passed =>
    le_advertised some (passes.mp passed).1 (passes.mp passed).2
  refine ⟨passes, atMost, fun few tight => refused_of_advertised some room few tight, ?_, ?_⟩
  · intro many
    have outside : ¬ (steps ≤ train ∧ s.config.stepsOffset < headroom) := fun passed =>
      absurd (atMost (passes.mpr passed)) (Nat.not_le.mpr many)
    rw [← stepRatio_eq some]
    exact refused some outside
  · intro small
    have enough {fewer : Nat} (positive : 0 < fewer) (few : fewer ≤ most) : accepted fewer :=
      (accepted_iff positive room).mpr (stepsOffset_lt_headroom positive small few)
    exact ⟨⟨atMost, enough some⟩, fun passed _ positive fewer =>
      enough positive (fewer.trans (atMost passed))⟩

/-- Six training timesteps, of which a pass leaves out the first two. -/
def sixFromTwo : ScheduleConfig whole := { noiseless with numTrainTimesteps := 6, stepsOffset := 2 }

theorem accepted_counts_sixFromTwo :
    ∃ s, ofConfig sixFromTwo = .ok s ∧
      s.leadingTimesteps 3 = Halt.fail (.tooManySteps 4 6 3) ∧
      ∃ timesteps, s.leadingTimesteps 4 = .ok timesteps := by
  obtain ⟨s, scheduled⟩ := exists_ofConfig sixFromTwo (by decide) (by decide)
  obtain ⟨-, -, refused, -⟩ := accepted_counts scheduled (show 0 < 3 by decide)
  obtain ⟨accepted, -⟩ := accepted_counts scheduled (show 0 < 4 by decide)
  exact ⟨s, scheduled, refused (by decide) (by decide), accepted.mpr (by decide)⟩

/-- Three steps are refused as more than the four that there may be. -/
theorem refused_asTooMany :
    ∃ s, ofConfig sixFromTwo = .ok s ∧ 3 ≤ s.advertised ∧
      (¬ ∃ timesteps, s.leadingTimesteps 3 = .ok timesteps) ∧
      (∃ timesteps, s.leadingTimesteps 4 = .ok timesteps) ∧
      ∃ e, s.leadingTimesteps 3 = Halt.fail e ∧
        e.message = "num_inference_steps must be at most 4 for 6 training steps, got 3" := by
  obtain ⟨s, scheduled⟩ := exists_ofConfig sixFromTwo (by decide) (by decide)
  obtain ⟨configured, room⟩ := config_of_ofConfig scheduled
  rw [← configured] at room
  have three : 3 ≤ s.advertised := by
    rw [advertised, configured]
    decide
  have tight : s.headroom 3 ≤ s.config.stepsOffset := by
    rw [headroom, configured]
    decide
  have four : 4 ≤ s.config.numTrainTimesteps ∧ s.config.stepsOffset < s.headroom 4 := by
    rw [headroom, configured]
    decide
  have turnedDown := refused_of_advertised (by decide) room three tight
  refine ⟨s, scheduled, three, ?_, (accepted_iff (by decide) room).mpr four, _, turnedDown, ?_⟩
  · rw [turnedDown]
    nofun
  · rw [advertised, configured]
    rfl

end Diffusion.NoiseSchedule
