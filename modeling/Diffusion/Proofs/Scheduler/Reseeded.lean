import Diffusion.Proofs.Sampling.Coupled

/-!
The seed of a scheduler as a matter of its backend.

A scheduler hands its seed to the backend and to nothing else. With another seed it therefore does
what it did before, on a backend that draws its noise from the seeds that follow. Main statement:
`reseeds_run`.
-/

namespace Diffusion

variable {A : Arithmetic} {σ τ α β : Type}

namespace Backend

/-- The backend with its noise drawn from other seeds. -/
def reseeding (B : Backend A σ τ) (f : UInt64 → UInt64) : Backend A σ τ :=
  { B with noise := fun x seed => B.noise x (f seed) }

variable (B : Backend A σ τ) (f : UInt64 → UInt64)

@[simp] theorem noise_reseeding (x : τ) (seed : UInt64) :
    (B.reseeding f).noise x seed = B.noise x (f seed) := rfl

@[simp] theorem scale_reseeding : (B.reseeding f).scale = B.scale := rfl

@[simp] theorem add_reseeding : (B.reseeding f).add = B.add := rfl

@[simp] theorem sub_reseeding : (B.reseeding f).sub = B.sub := rfl

@[simp] theorem addTerms_reseeding (sum : τ) (terms : List (A.Elem × τ)) :
    (B.reseeding f).addTerms sum terms = B.addTerms sum terms := by
  induction terms generalizing sum with
  | nil => rfl
  | cons term rest ih =>
      simp only [addTerms, ih, scale_reseeding, add_reseeding]

@[simp] theorem weightedSum_reseeding (terms : List (A.Elem × τ)) :
    (B.reseeding f).weightedSum terms = B.weightedSum terms := by
  cases terms with
  | nil => rfl
  | cons term rest =>
      simp only [weightedSum, addTerms_reseeding, scale_reseeding]

end Backend

/-! ### Updates that draw no noise -/

section Updates

variable (B : Backend A σ τ) (f : UInt64 → UInt64) (output sample : τ) (timestep : A.Elem)

theorem cleanAndNoise_reseeding (predicts : PredictionType) (alpha : A.Wide) :
    cleanAndNoise (B.reseeding f) predicts alpha output sample =
      cleanAndNoise B predicts alpha output sample := by
  simp only [cleanAndNoise, Backend.weightedSum_reseeding]

theorem Ddim.advance_reseeding (s : Ddim A) :
    s.advance (B.reseeding f) output timestep sample = s.advance B output timestep sample := by
  simp only [advance, cleanAndNoise_reseeding, Backend.weightedSum_reseeding]

theorem Pndm.advance_reseeding (s : Pndm A τ) :
    s.advance (B.reseeding f) timestep sample = s.advance B timestep sample := by
  have combined_reseeding : combined (B.reseeding f) s.outputs = combined B s.outputs := by
    simp only [combined, Backend.weightedSum_reseeding]
  simp only [advance, combined_reseeding, noiseOf, Backend.weightedSum_reseeding]

theorem SigmaTrack.derivative_reseeding (s : SigmaTrack A) (sigma : A.Wide) :
    s.derivative (B.reseeding f) sigma output sample = s.derivative B sigma output sample := by
  simp only [derivative, cleanSample, Backend.weightedSum_reseeding, Backend.sub_reseeding,
    Backend.scale_reseeding]

theorem Euler.advance_reseeding (s : SigmaTrack A) (i : Nat) :
    advance (B.reseeding f) s i output sample = advance B s i output sample := by
  simp only [advance, SigmaTrack.derivative_reseeding, Backend.weightedSum_reseeding]

theorem LinearMultistep.advance_reseeding (s : LinearMultistep A τ) (i : Nat) :
    s.advance (B.reseeding f) i sample = s.advance B i sample := by
  simp only [advance, Backend.weightedSum_reseeding]

end Updates

namespace Scheduler

/-- The scheduler in the middle of its pass, with another seed. -/
def withSeed (seed : UInt64) : Scheduler A τ → Scheduler A τ
  | ddpm s => ddpm { s with seed }
  | eulerAncestral s => eulerAncestral { s with seed }
  | s => s

@[simp] theorem withSeed_withSeed (seed seed' : UInt64) (s : Scheduler A τ) :
    (s.withSeed seed).withSeed seed' = s.withSeed seed' := by
  cases s <;> rfl

@[simp] theorem timesteps_withSeed (seed : UInt64) (s : Scheduler A τ) :
    (s.withSeed seed).timesteps = s.timesteps := by
  cases s <;> rfl

@[simp] theorem initialDeviation_withSeed (seed : UInt64) (s : Scheduler A τ) :
    (s.withSeed seed).initialDeviation = s.initialDeviation := by
  cases s <;> rfl

theorem ofSchedule_withSeed (id : SchedulerId) (schedule : NoiseSchedule A)
    (seed seed' : UInt64) :
    (ofSchedule (τ := τ) id schedule seed).withSeed seed' = ofSchedule id schedule seed' := by
  cases id <;> rfl

theorem Plans.withSeed {steps : Nat} {s planned : Scheduler A τ} (plans : s.Plans steps planned)
    (seed : UInt64) : (s.withSeed seed).Plans steps (planned.withSeed seed) := by
  cases plans with
  | pndm planned => exact .pndm planned
  | ddim planned => exact .ddim planned
  | @ddpm s _ planned => exact .ddpm (s := { s with seed }) planned
  | euler planned => exact .euler planned
  | @eulerAncestral s _ planned => exact .eulerAncestral (s := { s with seed }) planned
  | linearMultistep planned => exact .linearMultistep planned

theorem planned_withSeed {id : SchedulerId} {config : ScheduleConfig A} {seed : UInt64}
    {steps : Nat} {scheduler : Scheduler A τ}
    (planned : Scheduler.planned id config seed steps = .ok scheduler) (seed' : UInt64) :
    Scheduler.planned id config seed' steps = .ok (scheduler.withSeed seed') := by
  obtain ⟨schedule, scheduled, ran⟩ := planned_eq_ok_iff.mp planned
  apply planned_eq_ok_iff.mpr
  refine ⟨schedule, scheduled, ?_⟩
  rw [← ofSchedule_withSeed id schedule seed seed']
  exact runOn_plan ((plans_of_ok ran).withSeed seed')

theorem withSeed_of_planned {id : SchedulerId} {config : ScheduleConfig A} {seed : UInt64}
    {steps : Nat} {scheduler : Scheduler A τ}
    (planned : Scheduler.planned id config seed steps = .ok scheduler) :
    scheduler.withSeed seed = scheduler :=
  Except.ok.inj ((planned_withSeed planned seed).symm.trans planned)

end Scheduler

/-- The first call is the second one with another seed: what the second leaves has the one seed, and
the first leaves the same with the other. -/
structure Reseeds (seed seed' : UInt64) (x y : Action σ (α × Scheduler A τ)) : Prop where
  other : x = y >>= fun left => pure (left.1, left.2.withSeed seed')
  own : y = y >>= fun left => pure (left.1, left.2.withSeed seed)

namespace Reseeds

variable {seed seed' : UInt64} {x y : Action σ (α × Scheduler A τ)}

theorem pure (a : α) (s : Scheduler A τ) :
    Reseeds (σ := σ) seed seed' (pure (a, s.withSeed seed')) (pure (a, s.withSeed seed)) := by
  constructor <;> simp

theorem fail (e : Error) :
    Reseeds (σ := σ) (A := A) (τ := τ) (α := α) seed seed' (Action.fail e) (Action.fail e) :=
  ⟨rfl, rfl⟩

/-- Before a scheduler is touched, both do the same. -/
theorem after (z : Action σ β) {f g : β → Action σ (α × Scheduler A τ)}
    (next : ∀ b, Reseeds seed seed' (f b) (g b)) : Reseeds seed seed' (z >>= f) (z >>= g) := by
  constructor
  · rw [bind_assoc]
    exact congrArg _ (funext fun b => (next b).other)
  · rw [bind_assoc]
    exact congrArg _ (funext fun b => (next b).own)

theorem bind {f g : α × Scheduler A τ → Action σ (β × Scheduler A τ)}
    (first : Reseeds seed seed' x y)
    (next : ∀ (a : α) (s : Scheduler A τ),
      Reseeds seed seed' (f (a, s.withSeed seed')) (g (a, s.withSeed seed))) :
    Reseeds seed seed' (x >>= f) (y >>= g) := by
  have own : y >>= g = y >>= fun left => g (left.1, left.2.withSeed seed) := by
    conv_lhs => rw [first.own]
    simp only [bind_assoc, pure_bind]
  have other : x >>= f = y >>= fun left => f (left.1, left.2.withSeed seed') := by
    rw [first.other]
    simp only [bind_assoc, pure_bind]
  rw [own, other]
  exact after y fun left => next left.1 left.2

end Reseeds

section Steps

variable {B : Backend A σ τ} {f : UInt64 → UInt64} {seed seed' : UInt64}
  (shift : ∀ i, stepSeed seed' i = f (stepSeed seed i)) (scheduler : Scheduler A τ)
  (output sample conditioning latents : τ) (timestep guidance : A.Elem)

theorem reseeds_scaleInput :
    Reseeds seed seed'
      ((Scheduler.scaleInput B sample timestep).threaded (scheduler.withSeed seed'))
      ((Scheduler.scaleInput (B.reseeding f) sample timestep).threaded
        (scheduler.withSeed seed)) := by
  cases scheduler with
  | pndm s => exact .pure sample (.pndm s)
  | ddim s => exact .pure sample (.ddim s)
  | ddpm s => exact .pure sample (.ddpm s)
  | euler s =>
      simp only [Scheduler.withSeed, Scheduler.threaded_scaleInput_euler]
      exact .after _ fun scaled => .pure scaled.1 (.euler ⟨scaled.2⟩)
  | eulerAncestral s =>
      simp only [Scheduler.withSeed, Scheduler.threaded_scaleInput_eulerAncestral]
      exact .after _ fun scaled => .pure scaled.1 (.eulerAncestral ⟨scaled.2, seed⟩)
  | linearMultistep s =>
      simp only [Scheduler.withSeed, Scheduler.threaded_scaleInput_linearMultistep]
      exact .after _ fun scaled => .pure scaled.1 (.linearMultistep { s with track := scaled.2 })

include shift

theorem reseeds_step :
    Reseeds seed seed'
      ((Scheduler.step B output timestep sample).threaded (scheduler.withSeed seed'))
      ((Scheduler.step (B.reseeding f) output timestep sample).threaded
        (scheduler.withSeed seed)) := by
  cases scheduler with
  | pndm s =>
      simp only [Scheduler.withSeed, Scheduler.threaded_step_pndm, Pndm.threaded_step,
        Pndm.advance_reseeding, bind_assoc, pure_bind]
      exact .after _ fun previous => .pure previous (.pndm (s.remember output))
  | ddim s =>
      simp only [Scheduler.withSeed, Scheduler.threaded_step_ddim, Ddim.threaded_step,
        Ddim.advance_reseeding, bind_assoc, pure_bind]
      exact .after _ fun previous => .pure previous (.ddim s)
  | ddpm s =>
      -- The one seed follows from the other in the number of the step.
      have advances : Ddpm.advance B { s with seed := seed' } output timestep sample =
          Ddpm.advance (B.reseeding f) { s with seed } output timestep sample := by
        simp only [Ddpm.advance, Ddpm.addNoise, cleanAndNoise_reseeding,
          Backend.weightedSum_reseeding, Backend.noise_reseeding, Backend.scale_reseeding,
          Backend.add_reseeding, shift]
      simp only [Scheduler.withSeed, Scheduler.threaded_step_ddpm, Ddpm.threaded_step, advances,
        bind_assoc, pure_bind]
      exact .after _ fun previous => .pure previous (.ddpm { s with steps := s.steps + 1 })
  | euler s =>
      simp only [Scheduler.withSeed, Scheduler.threaded_step_euler, Euler.threaded_step,
        Euler.advance_reseeding, bind_assoc, pure_bind]
      apply Reseeds.after
      intro located
      exact .after _ fun previous => .pure previous (.euler ⟨located.2.moved⟩)
  | eulerAncestral s =>
      have advances (i : Nat) (track : SigmaTrack A) :
          EulerAncestral.advance B seed' track i output sample =
            EulerAncestral.advance (B.reseeding f) seed track i output sample := by
        simp only [EulerAncestral.advance, SigmaTrack.derivative_reseeding,
          Backend.weightedSum_reseeding, Backend.noise_reseeding, Backend.scale_reseeding,
          Backend.add_reseeding, shift]
      simp only [Scheduler.withSeed, Scheduler.threaded_step_eulerAncestral,
        EulerAncestral.threaded_step, advances, bind_assoc, pure_bind]
      apply Reseeds.after
      intro located
      exact .after _ fun previous => .pure previous (.eulerAncestral ⟨located.2.moved, seed⟩)
  | linearMultistep s =>
      simp only [Scheduler.withSeed, Scheduler.threaded_step_linearMultistep,
        LinearMultistep.threaded_step, SigmaTrack.derivative_reseeding,
        LinearMultistep.advance_reseeding, bind_assoc, pure_bind]
      apply Reseeds.after
      intro located
      apply Reseeds.after
      intro sigma
      apply Reseeds.after
      intro derivative
      exact .after _ fun previous => .pure previous (.linearMultistep _)

theorem reseeds_denoise :
    Reseeds seed seed'
      ((Sampling.denoise B guidance conditioning latents timestep).threaded
        (scheduler.withSeed seed'))
      ((Sampling.denoise (B.reseeding f) guidance conditioning latents timestep).threaded
        (scheduler.withSeed seed)) := by
  rw [Sampling.threaded_round, Sampling.threaded_round]
  apply Reseeds.after
  intro doubled
  apply (reseeds_scaleInput scheduler doubled timestep).bind
  intro input placed
  apply Reseeds.after
  intro prediction
  apply Reseeds.after
  intro halves
  apply Reseeds.after
  intro guided
  exact reseeds_step shift placed guided latents timestep

theorem reseeds_denoiseAll (timesteps : List A.Elem) (completed : Nat) :
    Reseeds seed seed'
      (((Sampling.denoiseAll B guidance conditioning timesteps latents).threaded
        completed).threaded (scheduler.withSeed seed'))
      (((Sampling.denoiseAll (B.reseeding f) guidance conditioning timesteps latents).threaded
        completed).threaded (scheduler.withSeed seed)) := by
  induction timesteps generalizing scheduler latents completed with
  | nil => exact .pure (latents, completed) scheduler
  | cons timestep rest ih =>
      rw [Sampling.threaded_denoiseAll, Sampling.threaded_denoiseAll]
      apply (reseeds_denoise shift scheduler conditioning latents timestep guidance).bind
      intro next left
      exact ih left next (completed + 1)

/-- The loop with another seed is the loop on a backend that draws from the seeds that follow. -/
theorem reseeds_run (completed : Nat) :
    Reseeds seed seed'
      (((Sampling.run B guidance latents conditioning).threaded completed).threaded
        (scheduler.withSeed seed'))
      (((Sampling.run (B.reseeding f) guidance latents conditioning).threaded completed).threaded
        (scheduler.withSeed seed)) := by
  rw [Sampling.threaded_run, Sampling.threaded_run]
  simp only [Scheduler.timesteps_withSeed, Scheduler.initialDeviation_withSeed]
  split
  · exact .fail _
  · apply Reseeds.after
    intro _
    apply Reseeds.after
    intro noisy
    exact reseeds_denoiseAll shift scheduler conditioning noisy guidance _ completed

end Steps

end Diffusion
