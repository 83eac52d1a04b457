import Diffusion.Proofs.Sampling.Coupled
import Diffusion.Proofs.Scheduler.Sound

/-!
Schedulers at the start of a pass.

Main statement: `Scheduler.readyFor_of_planned`, by which an accepted plan has as many timesteps as
were asked for and the scheduler is ready for all of them.
-/

namespace Diffusion

variable {A : Arithmetic} {τ : Type}

theorem Timeline.length_of_plan {line planned : Timeline A} {steps : Nat}
    (accepted : line.plan steps = .ok planned) : 0 < steps ∧ planned.timesteps.length = steps := by
  obtain ⟨timesteps, led, rfl⟩ := Timeline.of_plan accepted
  exact ⟨(NoiseSchedule.leadingTimesteps_of_ok led).1, NoiseSchedule.length_leadingTimesteps led⟩

theorem SigmaTrack.length_of_plan {track planned : SigmaTrack A} {steps : Nat}
    (accepted : track.plan steps = .ok planned) :
    0 < steps ∧ planned.timesteps.length = steps ∧ planned.visited = 0 := by
  obtain ⟨timesteps, led, rfl⟩ := SigmaTrack.of_plan accepted
  exact ⟨(NoiseSchedule.leadingTimesteps_of_ok led).1,
    NoiseSchedule.length_leadingTimesteps led, rfl⟩

namespace Scheduler

variable {id : SchedulerId} {config : ScheduleConfig A} {seed : UInt64} {steps : Nat}
  {scheduler : Scheduler A τ}

theorem length_of_plans {s : Scheduler A τ} (plans : s.Plans steps scheduler) :
    0 < steps ∧ scheduler.timesteps.length = steps ∧ scheduler.visited = 0 := by
  cases plans with
  | pndm planned | ddim planned | ddpm planned =>
      obtain ⟨positive, length⟩ := Timeline.length_of_plan planned
      exact ⟨positive, length, rfl⟩
  | euler planned | eulerAncestral planned | linearMultistep planned =>
      exact SigmaTrack.length_of_plan planned

theorem remembered_of_plans {s : Scheduler A τ} (plans : s.Plans steps scheduler) :
    scheduler.remembered = [] := by
  cases plans <;> rfl

theorem plans_of_planned (planned : Scheduler.planned id config seed steps = .ok scheduler) :
    ∃ new, create id config seed = .ok new ∧ new.Plans steps scheduler := by
  obtain ⟨schedule, scheduled, ran⟩ := planned_eq_ok_iff.mp planned
  refine ⟨ofSchedule id schedule seed, ?_, plans_of_ok ran⟩
  rw [create, scheduled]
  rfl

theorem readyFor_of_planned (counts : A.CountsAreNumbers) (fits : τ → Prop)
    (planned : Scheduler.planned id config seed steps = .ok scheduler) :
    0 < steps ∧ scheduler.timesteps.length = steps ∧
      scheduler.ReadyFor fits scheduler.timesteps := by
  obtain ⟨new, made, plans⟩ := plans_of_planned planned
  obtain ⟨positive, length, start⟩ := length_of_plans plans
  refine ⟨positive, length, ?_⟩
  refine ((sound_of_create made).plans counts plans).readyFor_pass ?_ ?_ start
  · rw [remembered_of_plans plans]
    nofun
  · exact List.length_pos_iff.mp (length ▸ positive)

theorem ready_of_planned (counts : A.CountsAreNumbers) (shape : Shape)
    {scheduler : Scheduler A (Tensor A.Elem)}
    (planned : Scheduler.planned id config seed steps = .ok scheduler) :
    0 < steps ∧ scheduler.timesteps.length = steps ∧
      scheduler.Ready shape scheduler.timesteps :=
  readyFor_of_planned counts _ planned

end Scheduler

end Diffusion
