import Diffusion.Proofs.Scheduler.Coupled
import Diffusion.Proofs.Scheduler.Plans

/-!
The sampling loop on two backends.

Main statements: `couples_run`, by which the loop does corresponding things from corresponding
inputs and schedulers, and `relatedSchedulers_planned`, by which schedulers that are planned alike
correspond.
-/

namespace Diffusion

/-- A new scheduler with a planned pass. -/
def Scheduler.planned {A : Arithmetic} {τ : Type} (id : SchedulerId) (config : ScheduleConfig A)
    (seed : UInt64) (steps : Nat) : Except Halt (Scheduler A τ) := do
  let scheduler ← Scheduler.create id config seed
  let (planned, scheduler) := (Scheduler.plan steps).runOn scheduler
  planned
  return scheduler

theorem Scheduler.planned_eq_ok_iff {A : Arithmetic} {τ : Type} {id : SchedulerId}
    {config : ScheduleConfig A} {seed : UInt64} {steps : Nat} {scheduler : Scheduler A τ} :
    Scheduler.planned id config seed steps = .ok scheduler ↔
      ∃ schedule, NoiseSchedule.ofConfig config = .ok schedule ∧
        (Scheduler.plan steps).runOn (.ofSchedule id schedule seed) = (.ok (), scheduler) := by
  unfold Scheduler.planned Scheduler.create
  cases NoiseSchedule.ofConfig config with
  | error h =>
      constructor
      · intro impossible
        cases impossible
      · rintro ⟨_, impossible, _⟩
        cases impossible
  | ok schedule =>
      have ran : ∀ answer (left : Scheduler A τ),
          ((do
            (answer : Except Halt Unit)
            return left) = Except.ok scheduler) ↔ (answer, left) = (.ok (), scheduler) := by
        rintro (_ | _) left
        · simp [bind, Except.bind]
        · simp [bind, Except.bind, pure, Except.pure]
      refine (ran _ _).trans ⟨fun ran => ⟨schedule, rfl, ran⟩, ?_⟩
      rintro ⟨_, same, ran⟩
      cases same
      exact ran

namespace Coupling

variable {A : Arithmetic} {σ₁ τ₁ σ₂ τ₂ : Type} {B₁ : Backend A σ₁ τ₁} {B₂ : Backend A σ₂ τ₂}
  (C : Coupling B₁ B₂) {w w' : C.World} {conditioning₁ latents₁ : τ₁} {conditioning₂ latents₂ : τ₂}
  {s₁ : Scheduler A τ₁} {s₂ : Scheduler A τ₂}

def RelatedRuns (w : C.World) (a : (τ₁ × Nat) × Scheduler A τ₁) (b : (τ₂ × Nat) × Scheduler A τ₂) :
    Prop :=
  C.Related w a.1.1 b.1.1 ∧ a.1.2 = b.1.2 ∧ C.RelatedSchedulers w a.2 b.2

theorem couples_predictGuided (guidance timestep : A.Elem)
    (schedulers : C.RelatedSchedulers w s₁ s₂)
    (conditionings : C.Related w conditioning₁ conditioning₂)
    (latents : C.Related w latents₁ latents₂) :
    C.Couples w
      ((Sampling.predictGuided B₁ guidance conditioning₁ latents₁ timestep).threaded s₁)
      ((Sampling.predictGuided B₂ guidance conditioning₂ latents₂ timestep).threaded s₂)
      C.RelatedSteps := by
  rw [Sampling.threaded_predictGuided, Sampling.threaded_predictGuided]
  refine C.couples_bind (C.couples_concat latents latents) fun w₁ _ _ leads₁ doubled => ?_
  refine C.couples_bind
    (C.couples_scaleInput timestep (schedulers.of_leads leads₁) doubled) ?_
  rintro w₂ ⟨input₁, s₁⟩ ⟨input₂, s₂⟩ leads₂ ⟨inputs, schedulers⟩
  have conditionings := C.related_of_leads leads₂ (C.related_of_leads leads₁ conditionings)
  refine C.couples_bind (C.couples_predict timestep inputs conditionings) ?_
  intro w₃ prediction₁ prediction₂ leads₃ predictions
  refine C.couples_bind (C.couples_split predictions) ?_
  rintro w₄ ⟨_, _⟩ ⟨_, _⟩ leads₄ ⟨unconditional, conditional⟩
  refine C.couples_map (C.couples_guide guidance unconditional conditional) ?_
  intro w₅ guided₁ guided₂ leads₅ guided
  exact ⟨guided, ((schedulers.of_leads leads₃).of_leads leads₄).of_leads leads₅⟩

theorem couples_denoise (guidance timestep : A.Elem) (schedulers : C.RelatedSchedulers w s₁ s₂)
    (conditionings : C.Related w conditioning₁ conditioning₂)
    (latents : C.Related w latents₁ latents₂) :
    C.Couples w ((Sampling.denoise B₁ guidance conditioning₁ latents₁ timestep).threaded s₁)
      ((Sampling.denoise B₂ guidance conditioning₂ latents₂ timestep).threaded s₂)
      C.RelatedSteps := by
  rw [Sampling.threaded_denoise, Sampling.threaded_denoise]
  refine C.couples_bind
    (C.couples_predictGuided guidance timestep schedulers conditionings latents) ?_
  rintro w' ⟨guided₁, s₁⟩ ⟨guided₂, s₂⟩ leads ⟨guided, schedulers⟩
  exact C.couples_step timestep schedulers guided (C.related_of_leads leads latents)

/-- One timestep keeps the correspondence, hence so do all of them. -/
theorem couples_denoiseAll (guidance : A.Elem) (timesteps : List A.Elem) (completed : Nat)
    (schedulers : C.RelatedSchedulers w s₁ s₂)
    (conditionings : C.Related w conditioning₁ conditioning₂)
    (latents : C.Related w latents₁ latents₂) :
    C.Couples w
      (((Sampling.denoiseAll B₁ guidance conditioning₁ timesteps latents₁).threaded
        completed).threaded s₁)
      (((Sampling.denoiseAll B₂ guidance conditioning₂ timesteps latents₂).threaded
        completed).threaded s₂) C.RelatedRuns := by
  induction timesteps generalizing w latents₁ latents₂ completed s₁ s₂ with
  | nil => exact C.couples_pure ⟨latents, rfl, schedulers⟩
  | cons timestep rest ih =>
      rw [Sampling.threaded_denoiseAll, Sampling.threaded_denoiseAll]
      refine C.couples_bind
        (C.couples_denoise guidance timestep schedulers conditionings latents) ?_
      rintro w' ⟨latents₁, s₁⟩ ⟨latents₂, s₂⟩ leads ⟨latents, schedulers⟩
      exact ih (completed + 1) schedulers (C.related_of_leads leads conditionings) latents

theorem couples_run (guidance : A.Elem) (completed : Nat)
    (schedulers : C.RelatedSchedulers w s₁ s₂) (latents : C.Related w latents₁ latents₂)
    (conditionings : C.Related w conditioning₁ conditioning₂)
    (latentShapes : B₁.shape latents₁ = B₂.shape latents₂)
    (conditioningShapes : B₁.shape conditioning₁ = B₂.shape conditioning₂) :
    C.Couples w
      (((Sampling.run B₁ guidance latents₁ conditioning₁).threaded completed).threaded s₁)
      (((Sampling.run B₂ guidance latents₂ conditioning₂).threaded completed).threaded s₂)
      C.RelatedRuns := by
  rw [Sampling.threaded_run, Sampling.threaded_run, schedulers.timesteps_eq,
    schedulers.initialDeviation_eq, latentShapes, conditioningShapes]
  split
  · exact C.couples_fail _
  · refine C.couples_ofExcept_bind _ fun _ _ => ?_
    refine C.couples_bind (C.couples_scale _ latents) fun w' _ _ leads noisy => ?_
    exact C.couples_denoiseAll guidance _ completed (schedulers.of_leads leads)
      (C.related_of_leads leads conditionings) noisy

/-! ### New schedulers -/

theorem relatedSchedulers_ofSchedule (id : SchedulerId) (schedule : NoiseSchedule A)
    (seed : UInt64) :
    C.RelatedSchedulers w (.ofSchedule id schedule seed) (.ofSchedule id schedule seed) := by
  cases id with
  | pndm => exact .pndm .nil
  | ddim => exact .ddim _
  | ddpm => exact .ddpm _
  | eulerDiscrete => exact .euler _
  | eulerAncestralDiscrete => exact .eulerAncestral _
  | lmsDiscrete => exact .linearMultistep .nil

theorem relatedSchedulers_replan {S : Type} {wrap₁ : S → Scheduler A τ₁}
    {wrap₂ : S → Scheduler A τ₂} (wraps : ∀ s, C.RelatedSchedulers w (wrap₁ s) (wrap₂ s)) (s : S)
    (planned : Except Halt S) :
    (Scheduler.replan wrap₁ s planned).1 = (Scheduler.replan wrap₂ s planned).1 ∧
      C.RelatedSchedulers w (Scheduler.replan wrap₁ s planned).2
        (Scheduler.replan wrap₂ s planned).2 := by
  cases planned with
  | error h => exact ⟨rfl, wraps s⟩
  | ok s => exact ⟨rfl, wraps s⟩

/-- Corresponding schedulers take or refuse a plan together. -/
theorem relatedSchedulers_plan (steps : Nat) (schedulers : C.RelatedSchedulers w s₁ s₂) :
    ((Scheduler.plan steps).runOn s₁).1 = ((Scheduler.plan steps).runOn s₂).1 ∧
      C.RelatedSchedulers w ((Scheduler.plan steps).runOn s₁).2
        ((Scheduler.plan steps).runOn s₂).2 := by
  cases schedulers with
  | @pndm line outputs₁ outputs₂ remembered =>
      have planned {τ : Type} (outputs : List τ) :
          (Scheduler.plan steps).runOn (.pndm ⟨line, outputs⟩) =
            Scheduler.replan .pndm (Pndm.mk line outputs)
              ((line.plan steps).map fun line => ⟨line, []⟩) := by
        change Scheduler.replan .pndm _ (Pndm.plan _ steps) = _
        unfold Pndm.plan
        cases line.plan steps <;> rfl
      rw [planned, planned]
      cases line.plan steps with
      | error h => exact ⟨rfl, .pndm remembered⟩
      | ok line => exact ⟨rfl, .pndm .nil⟩
  | ddim s => exact C.relatedSchedulers_replan .ddim s _
  | ddpm s => exact C.relatedSchedulers_replan .ddpm s _
  | euler s => exact C.relatedSchedulers_replan .euler s _
  | eulerAncestral s => exact C.relatedSchedulers_replan .eulerAncestral s _
  | @linearMultistep track derivatives₁ derivatives₂ remembered =>
      rw [Scheduler.runOn_plan_linearMultistep, Scheduler.runOn_plan_linearMultistep]
      cases track.plan steps with
      | error h => exact ⟨rfl, .linearMultistep .nil⟩
      | ok track => exact ⟨rfl, .linearMultistep .nil⟩

theorem relatedSchedulers_planned {id : SchedulerId} {config : ScheduleConfig A} {seed : UInt64}
    {steps : Nat} (planned : Scheduler.planned id config seed steps = .ok s₁) :
    ∃ s₂, Scheduler.planned id config seed steps = .ok s₂ ∧ C.RelatedSchedulers w s₁ s₂ := by
  obtain ⟨schedule, scheduled, ran⟩ := Scheduler.planned_eq_ok_iff.mp planned
  obtain ⟨answers, schedulers⟩ := C.relatedSchedulers_plan steps
    (C.relatedSchedulers_ofSchedule (w := w) id schedule seed)
  rw [ran] at answers schedulers
  exact ⟨_, Scheduler.planned_eq_ok_iff.mpr ⟨schedule, scheduled, Prod.ext answers.symm rfl⟩,
    schedulers⟩

end Coupling

end Diffusion
