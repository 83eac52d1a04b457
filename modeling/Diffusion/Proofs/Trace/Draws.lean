import Diffusion.Proofs.Scheduler.Planned
import Diffusion.Proofs.Trace.Abreast

/-!
The noise that a traced loop draws.

Only two kinds of scheduler draw noise, at most once in a step, and the seed is that of the step's
number in the pass: the one counts its steps, the other goes by its place among the sigmas. Main
statement: `draws_denoiseAll`, by which the seeds of a run are those of its step numbers, some left
out, and there are none if the scheduler is deterministic.
-/

namespace Diffusion

variable {A : Arithmetic} {α β : Type}

/-- The seed that an operation draws noise from. -/
def Op.noiseSeed? : Op A → Option UInt64
  | noise _ seed => some seed
  | _ => none

namespace Recording

/-- The seeds of the noise recorded so far, in the order in which it was drawn. -/
def noiseSeeds (r : Recording A) : List UInt64 :=
  r.instructions.toList.filterMap (·.op.noiseSeed?)

/-- What a call that succeeds returns and the seeds that it draws noise from are as told. -/
def Draws (x : Action (Recording A) α) (R : α → List UInt64 → Prop) : Prop :=
  ∀ r a r', x.runOn r = (.ok a, r') → ∃ seeds, r'.noiseSeeds = r.noiseSeeds ++ seeds ∧ R a seeds

/-- A call that draws no noise. -/
abbrev Quiet (x : Action (Recording A) α) : Prop := Draws x fun _ seeds => seeds = []

variable {x : Action (Recording A) α} {f : α → Action (Recording A) β}
  {R : α → List UInt64 → Prop} {S : β → List UInt64 → Prop}

theorem draws_pure {a : α} (drawn : R a []) : Draws (pure a : Action (Recording A) α) R := by
  intro r _ _ ran
  cases ran
  exact ⟨[], (List.append_nil _).symm, drawn⟩

theorem quiet_pure (a : α) : Quiet (pure a : Action (Recording A) α) := draws_pure rfl

theorem quiet_fail (e : Error) : Quiet (Action.fail e : Action (Recording A) α) := by
  intro r _ _ ran
  cases ran

theorem Draws.imp {R' : α → List UInt64 → Prop} (draws : Draws x R)
    (weaker : ∀ a seeds, R a seeds → R' a seeds) : Draws x R' := by
  intro r a r' ran
  obtain ⟨seeds, appended, drawn⟩ := draws r a r' ran
  exact ⟨seeds, appended, weaker a seeds drawn⟩

theorem Draws.bind (first : Draws x R)
    (next : ∀ a seeds, R a seeds → Draws (f a) fun b later => S b (seeds ++ later)) :
    Draws (x >>= f) S := by
  intro r b r'' ran
  obtain ⟨a, r', answered, continued⟩ := Action.of_bind_ok ran
  obtain ⟨seeds, appended, drawn⟩ := first r a r' answered
  obtain ⟨later, appendedLater, drawnLater⟩ := next a seeds drawn r' b r'' continued
  refine ⟨seeds ++ later, ?_, drawnLater⟩
  rw [appendedLater, appended, List.append_assoc]

theorem Draws.after_quiet (quiet : Quiet x) (next : ∀ a, Draws (f a) S) : Draws (x >>= f) S := by
  apply quiet.bind
  intro a seeds none
  rw [none]
  exact next a

theorem draws_ofExcept_bind (result : Except Halt α) (next : ∀ a, result = .ok a → Draws (f a) S) :
    Draws (Action.ofExcept result >>= f) S := by
  cases result with
  | error h =>
      intro r _ _ ran
      cases ran
  | ok a => exact next a rfl

theorem draws_call (call : Backend.Call A Value) (values : α → List Value)
    (calls : call.make (.tracer A) = x >>= fun a => pure (values a)) :
    Draws x fun _ seeds => seeds = (call.map (·.id)).ops.filterMap Op.noiseSeed? := by
  intro r a r' ran
  have made : (call.make (.tracer A)).runOn r = (.ok (values a), r') := by
    rw [calls, Action.runOn_bind_ok ran, Action.runOn_pure]
  obtain ⟨shape, -, rfl⟩ := Backend.Call.of_make_tracer made
  refine ⟨_, ?_, rfl⟩
  simp [noiseSeeds, extended, List.filterMap_map]

end Recording

open Recording

/-! ### Operations and sums -/

section Operations

variable {v v' : Value}

theorem quiet_scale (factor : A.Elem) : Quiet ((Backend.tracer A).scale v factor) :=
  draws_call (.scale v factor) (fun v => [v]) rfl

theorem quiet_add : Quiet ((Backend.tracer A).add v v') :=
  draws_call (.add v v') (fun v => [v]) rfl

theorem quiet_sub : Quiet ((Backend.tracer A).sub v v') :=
  draws_call (.sub v v') (fun v => [v]) rfl

theorem quiet_concat : Quiet ((Backend.tracer A).concat v v') :=
  draws_call (.concat v v') (fun v => [v]) rfl

theorem quiet_split : Quiet ((Backend.tracer A).split v) :=
  draws_call (.split v) (fun halves => [halves.1, halves.2]) rfl

theorem quiet_predict (timestep : A.Elem) : Quiet ((Backend.tracer A).predict v timestep v') :=
  draws_call (.predict v timestep v') (fun v => [v]) rfl

theorem draws_noise (seed : UInt64) :
    Draws ((Backend.tracer A).noise v seed) fun _ seeds => seeds = [seed] :=
  draws_call (.noise v seed) (fun v => [v]) rfl

theorem quiet_addTerms (sum : Value) (terms : List (A.Elem × Value)) :
    Quiet ((Backend.tracer A).addTerms sum terms) := by
  induction terms generalizing sum with
  | nil => exact quiet_pure sum
  | cons term rest ih =>
      apply Draws.after_quiet (quiet_scale term.1)
      intro scaled
      apply Draws.after_quiet quiet_add
      exact ih

theorem quiet_weightedSum (terms : List (A.Elem × Value)) :
    Quiet ((Backend.tracer A).weightedSum terms) := by
  cases terms with
  | nil => exact quiet_fail .noTerms
  | cons term rest =>
      apply Draws.after_quiet (quiet_scale term.1)
      intro first
      exact quiet_addTerms first rest

theorem quiet_guide (guidance : A.Elem) : Quiet ((Backend.tracer A).guide v v' guidance) := by
  apply Draws.after_quiet quiet_sub
  intro delta
  apply Draws.after_quiet (quiet_scale guidance)
  intro scaled
  exact quiet_add

end Operations

/-! ### Updates -/

section Updates

variable {output sample : Value}

theorem quiet_cleanAndNoise (predicts : PredictionType) (alpha : A.Wide) :
    Quiet (cleanAndNoise (.tracer A) predicts alpha output sample) := by
  cases predicts with
  | epsilon =>
      apply Draws.after_quiet (quiet_weightedSum _)
      intro clean
      exact quiet_pure _
  | vPrediction =>
      apply Draws.after_quiet (quiet_weightedSum _)
      intro clean
      apply Draws.after_quiet (quiet_weightedSum _)
      intro noise
      exact quiet_pure _

theorem quiet_ddim_advance (s : Ddim A) (timestep : A.Elem) :
    Quiet (s.advance (.tracer A) output timestep sample) := by
  apply draws_ofExcept_bind
  intro next _
  apply Draws.after_quiet (quiet_cleanAndNoise _ _)
  intro pair
  exact quiet_weightedSum _

theorem quiet_combined (outputs : List Value) : Quiet (Pndm.combined (.tracer A) outputs) := by
  unfold Pndm.combined
  split
  · exact quiet_pure _
  · exact quiet_weightedSum _

theorem quiet_noiseOf (predicts : PredictionType) (alpha : A.Wide) :
    Quiet (Pndm.noiseOf (.tracer A) predicts alpha output sample) := by
  unfold Pndm.noiseOf
  split
  · exact quiet_pure output
  · exact quiet_weightedSum _

theorem quiet_pndm_advance (s : Pndm A Value) (timestep : A.Elem) :
    Quiet (s.advance (.tracer A) timestep sample) := by
  apply draws_ofExcept_bind
  intro next _
  apply Draws.after_quiet (quiet_combined _)
  intro combined
  apply Draws.after_quiet (quiet_noiseOf _ _)
  intro noise
  exact quiet_weightedSum _

theorem quiet_derivative (s : SigmaTrack A) (sigma : A.Wide) :
    Quiet (s.derivative (.tracer A) sigma output sample) := by
  have quiet_cleanSample : Quiet (SigmaTrack.cleanSample (.tracer A)
      s.schedule.config.predictionType sigma output sample) := by
    unfold SigmaTrack.cleanSample
    split <;> exact quiet_weightedSum _
  apply Draws.after_quiet quiet_cleanSample
  intro clean
  apply Draws.after_quiet quiet_sub
  intro distance
  exact quiet_scale _

theorem quiet_euler_advance (s : SigmaTrack A) (i : Nat) :
    Quiet (Euler.advance (.tracer A) s i output sample) := by
  apply draws_ofExcept_bind
  intro sigma _
  apply draws_ofExcept_bind
  intro sigmaNext _
  apply Draws.after_quiet (quiet_derivative s sigma)
  intro derivative
  exact quiet_weightedSum _

theorem quiet_linearMultistep_advance (s : LinearMultistep A Value) (i : Nat) :
    Quiet (s.advance (.tracer A) i sample) := by
  apply draws_ofExcept_bind
  intro weights _
  exact quiet_weightedSum _

theorem draws_addNoise (seed : UInt64) (deviation : A.Elem) (mean : Value) :
    Draws (Ddpm.addNoise (.tracer A) seed deviation mean sample) fun _ seeds => seeds = [seed] := by
  apply (draws_noise seed).bind
  intro noise seeds drawn
  apply Draws.after_quiet (quiet_scale deviation)
  intro scaled
  apply quiet_add.imp
  intro sum later none
  rw [drawn, none, List.append_nil]

theorem draws_ddpm_advance (s : Ddpm A) (timestep : A.Elem) :
    Draws (s.advance (.tracer A) output timestep sample) fun _ seeds =>
      seeds.Sublist [stepSeed s.seed s.steps] := by
  apply draws_ofExcept_bind
  intro next _
  apply Draws.after_quiet (quiet_cleanAndNoise _ _)
  intro pair
  apply Draws.after_quiet (quiet_weightedSum _)
  intro mean
  split
  · apply (draws_addNoise _ _ mean).imp
    intro previous seeds drawn
    rw [drawn]
  · exact draws_pure (List.nil_sublist _)

theorem draws_eulerAncestral_advance (seed : UInt64) (s : SigmaTrack A) (i : Nat) :
    Draws (EulerAncestral.advance (.tracer A) seed s i output sample) fun _ seeds =>
      seeds.Sublist [stepSeed seed i] := by
  apply draws_ofExcept_bind
  intro sigma _
  apply draws_ofExcept_bind
  intro sigmaNext _
  apply Draws.after_quiet (quiet_derivative s sigma)
  intro derivative
  apply Draws.after_quiet (quiet_weightedSum _)
  intro lowered
  split
  · apply (draws_addNoise (stepSeed seed i) _ lowered).imp
    intro previous seeds drawn
    rw [drawn]
  · exact draws_pure (List.nil_sublist _)

end Updates

/-! ### Steps and rounds -/

namespace Scheduler

/-- The next step of a scheduler that draws noise has this number in its pass. -/
def Numbered (seed : UInt64) (i : Nat) (rest : List A.Elem) : Scheduler A Value → Prop
  | ddpm s => s.seed = seed ∧ s.steps = i
  | eulerAncestral s => s.seed = seed ∧ s.track.Ready i rest
  | pndm _ | ddim _ | euler _ | linearMultistep _ => True

end Scheduler

/-- Seeds of steps of these numbers, in order, and none if the scheduler is deterministic. -/
structure SeedsOf (id : SchedulerId) (seed : UInt64) (numbers : List Nat) (seeds : List UInt64) :
    Prop where
  sublist : seeds.Sublist (numbers.map (stepSeed seed))
  deterministic : id.isStochastic = false → seeds = []

namespace SeedsOf

variable {id : SchedulerId} {seed : UInt64} {numbers later : List Nat} {seeds seeds' : List UInt64}

theorem nil : SeedsOf id seed numbers [] := ⟨List.nil_sublist _, fun _ => rfl⟩

theorem append (first : SeedsOf id seed numbers seeds) (second : SeedsOf id seed later seeds') :
    SeedsOf id seed (numbers ++ later) (seeds ++ seeds') := by
  constructor
  · rw [List.map_append]
    exact first.sublist.append second.sublist
  · intro deterministic
    rw [first.deterministic deterministic, second.deterministic deterministic, List.append_nil]

end SeedsOf

section Loop

variable {scheduler : Scheduler A Value} {seed : UInt64} {i : Nat} {timestep guidance : A.Elem}
  {rest : List A.Elem} {output sample conditioning latents : Value}

theorem quiet_scaleInput (numbered : scheduler.Numbered seed i (timestep :: rest)) :
    Draws ((Scheduler.scaleInput (.tracer A) sample timestep).threaded scheduler)
      fun scaled seeds => seeds = [] ∧ scaled.2.id = scheduler.id ∧
        scaled.2.Numbered seed i (timestep :: rest) := by
  have quiet_track (track : SigmaTrack A) :
      Draws ((SigmaTrack.scaleInput (.tracer A) sample timestep).threaded track)
        fun scaled seeds => seeds = [] ∧ ∃ i, track.located timestep = .ok (i, scaled.2) := by
    rw [SigmaTrack.threaded_scaleInput]
    apply draws_ofExcept_bind
    intro ⟨i, placed⟩ located
    apply draws_ofExcept_bind
    intro sigma _
    apply Draws.after_quiet (quiet_scale _)
    intro scaled
    exact draws_pure ⟨rfl, i, located⟩
  cases scheduler with
  | pndm | ddim | ddpm => exact draws_pure ⟨rfl, rfl, numbered⟩
  | euler s =>
      rw [Scheduler.threaded_scaleInput_euler]
      apply (quiet_track s.track).bind
      intro scaled seeds drawn
      rw [drawn.1]
      exact draws_pure ⟨rfl, rfl, trivial⟩
  | eulerAncestral s =>
      rw [Scheduler.threaded_scaleInput_eulerAncestral]
      apply (quiet_track s.track).bind
      intro ⟨scaled, placed⟩ seeds ⟨nothing, j, located⟩
      rw [nothing]
      cases numbered.2.located_head.symm.trans located
      exact draws_pure ⟨rfl, rfl, numbered.1, numbered.2.placed⟩
  | linearMultistep s =>
      rw [Scheduler.threaded_scaleInput_linearMultistep]
      apply (quiet_track s.track).bind
      intro scaled seeds drawn
      rw [drawn.1]
      exact draws_pure ⟨rfl, rfl, trivial⟩

/-- A step draws at most the noise of its number, and a deterministic one none at all. -/
theorem draws_step (numbered : scheduler.Numbered seed i (timestep :: rest)) :
    Draws ((Scheduler.step (.tracer A) output timestep sample).threaded scheduler)
      fun stepped seeds => SeedsOf scheduler.id seed [i] seeds ∧
        stepped.2.id = scheduler.id ∧ stepped.2.Numbered seed (i + 1) rest := by
  cases scheduler with
  | pndm s =>
      simp only [Scheduler.threaded_step_pndm, Pndm.threaded_step, bind_assoc, pure_bind]
      apply Draws.after_quiet (quiet_pndm_advance _ timestep)
      intro previous
      exact draws_pure ⟨.nil, rfl, trivial⟩
  | ddim s =>
      simp only [Scheduler.threaded_step_ddim, Ddim.threaded_step, bind_assoc, pure_bind]
      apply Draws.after_quiet (quiet_ddim_advance s timestep)
      intro previous
      exact draws_pure ⟨.nil, rfl, trivial⟩
  | ddpm s =>
      simp only [Scheduler.threaded_step_ddpm, Ddpm.threaded_step, bind_assoc, pure_bind]
      obtain ⟨rfl, rfl⟩ := numbered
      apply (draws_ddpm_advance s timestep).bind
      intro previous seeds drawn
      rw [← List.append_nil seeds] at drawn
      exact draws_pure ⟨⟨drawn, nofun⟩, rfl, rfl, rfl⟩
  | euler s =>
      simp only [Scheduler.threaded_step_euler, Euler.threaded_step, bind_assoc, pure_bind]
      apply draws_ofExcept_bind
      intro ⟨j, placed⟩ _
      apply Draws.after_quiet (quiet_euler_advance placed j)
      intro previous
      exact draws_pure ⟨.nil, rfl, trivial⟩
  | eulerAncestral s =>
      simp only [Scheduler.threaded_step_eulerAncestral, EulerAncestral.threaded_step, bind_assoc,
        pure_bind]
      obtain ⟨rfl, ready⟩ := numbered
      -- The number of the step is the place that is found here, not a count of calls.
      rw [ready.located_head, Action.ofExcept_ok, pure_bind]
      apply (draws_eulerAncestral_advance s.seed _ i).bind
      intro previous seeds drawn
      rw [← List.append_nil seeds] at drawn
      exact draws_pure ⟨⟨drawn, nofun⟩, rfl, rfl, ready.moved⟩
  | linearMultistep s =>
      simp only [Scheduler.threaded_step_linearMultistep, LinearMultistep.threaded_step, bind_assoc,
        pure_bind]
      apply draws_ofExcept_bind
      intro ⟨j, placed⟩ _
      apply draws_ofExcept_bind
      intro sigma _
      apply Draws.after_quiet (quiet_derivative placed sigma)
      intro derivative
      apply Draws.after_quiet (quiet_linearMultistep_advance _ j)
      intro previous
      exact draws_pure ⟨.nil, rfl, trivial⟩

theorem draws_denoise (numbered : scheduler.Numbered seed i (timestep :: rest)) :
    Draws ((Sampling.denoise (.tracer A) guidance conditioning latents timestep).threaded scheduler)
      fun stepped seeds => SeedsOf scheduler.id seed [i] seeds ∧
        stepped.2.id = scheduler.id ∧ stepped.2.Numbered seed (i + 1) rest := by
  rw [Sampling.threaded_round]
  apply Draws.after_quiet quiet_concat
  intro doubled
  apply (quiet_scaleInput numbered).bind
  intro ⟨input, placed⟩ seeds ⟨nothing, same, still⟩
  rw [nothing, ← same]
  apply Draws.after_quiet (quiet_predict timestep)
  intro prediction
  apply Draws.after_quiet quiet_split
  intro halves
  apply Draws.after_quiet (quiet_guide guidance)
  intro guided
  exact draws_step still

theorem draws_denoiseAll {timesteps : List A.Elem} (numbered : scheduler.Numbered seed i timesteps)
    (completed : Nat) :
    Draws (((Sampling.denoiseAll (.tracer A) guidance conditioning timesteps latents).threaded
      completed).threaded scheduler)
      fun _ seeds => SeedsOf scheduler.id seed (List.range' i timesteps.length) seeds := by
  -- Each round draws by its own number, and the next round's is one more.
  induction timesteps generalizing scheduler latents i completed with
  | nil => exact draws_pure .nil
  | cons timestep rest ih =>
      rw [Sampling.threaded_denoiseAll]
      apply (draws_denoise numbered).bind
      intro ⟨next, left⟩ seeds ⟨drawn, same, later⟩
      apply (ih later (completed + 1)).imp
      intro ended seeds' drawnLater
      rw [same] at drawnLater
      exact drawn.append drawnLater

end Loop

end Diffusion
