import Diffusion.Proofs.Sampling.Passes
import Diffusion.Proofs.Scheduler.ChangeOfVariables

/-!
Euler's method over sigmas and the implicit method over cumulative alphas as one sampler.

In exact numbers a pass of the one follows a pass of the other: before every timestep its sample is
the other one's times the deviation `sqrt (sigma ^ 2 + 1)`, which is taken out again before the
network is asked. `partway` is a loop after some of its timesteps. Main statement:
`outcome_euler_eq_ddim`.
-/

namespace Diffusion

variable {A : Arithmetic} {σ τ ν : Type}

/-! ### Loops partway -/

namespace Sampling

/-- What a loop has made of its latents after the first timesteps of a pass, and the state in which
it left the backend. -/
def partway (B : Backend A σ τ) (guidance : A.Elem) (latents conditioning : τ) (backend : σ)
    (scheduler : Scheduler A τ) (k : Nat) : Except Halt τ × σ :=
  let (answer, (backend, _), _) := (do
    let noisy ← Action.onFirst (Action.onFirst (B.scale latents scheduler.initialDeviation))
    denoiseAll B guidance conditioning (scheduler.timesteps.take k) noisy :
      Action ((σ × Scheduler A τ) × Nat) τ).runOn ((backend, scheduler), 0)
  (answer, backend)

variable (B : Backend A σ τ) (guidance : A.Elem) (latents conditioning : τ) (backend : σ)
  (scheduler : Scheduler A τ)

theorem partway_eq (k : Nat) :
    partway B guidance latents conditioning backend scheduler k =
      let ran := (do
        let noisy ← B.scale latents scheduler.initialDeviation
        ((denoiseAll B guidance conditioning (scheduler.timesteps.take k) noisy).threaded
          0).threaded scheduler).runOn backend
      (ran.1.map (fun result => result.1.1), ran.2) := by
  let loop : Action ((σ × Scheduler A τ) × Nat) τ := do
    let noisy ← Action.onFirst (Action.onFirst (B.scale latents scheduler.initialDeviation))
    denoiseAll B guidance conditioning (scheduler.timesteps.take k) noisy
  have threaded : (do
      let noisy ← B.scale latents scheduler.initialDeviation
      ((denoiseAll B guidance conditioning (scheduler.timesteps.take k) noisy).threaded
        0).threaded scheduler) = (loop.threaded 0).threaded scheduler := by
    simp only [loop, Action.threaded_bind, Action.threaded_onFirst, bind_assoc, pure_bind]
  rw [threaded, Action.runOn_threaded, Action.runOn_threaded]
  change (let (answer, (backend, _), _) := loop.runOn ((backend, scheduler), 0)
    (answer, backend)) = _
  rcases loop.runOn ((backend, scheduler), 0) with ⟨_ | _, ⟨_, _⟩, _⟩ <;> rfl

/-- A loop whose inputs are accepted goes all the way. -/
theorem outcome_eq_partway (planned : scheduler.timesteps ≠ []) :
    let ended := outcome B guidance latents conditioning backend scheduler
    (ended.answer, ended.backend) =
      match checkShapes (B.shape latents) (B.shape conditioning) with
      | .ok _ => partway B guidance latents conditioning backend scheduler
          scheduler.timesteps.length
      | .error h => (.error h, backend) := by
  intro ended
  obtain ⟨answer, left⟩ := outcome_eq B guidance latents conditioning backend scheduler
  have due : ¬ scheduler.timesteps.isEmpty = true := by simpa using planned
  rw [threaded_run, if_neg due] at answer left
  rw [show ended.answer = _ from answer, show ended.backend = _ from left]
  cases checkShapes (B.shape latents) (B.shape conditioning) with
  | error h => rfl
  | ok accepted =>
      rw [Action.ofExcept_ok, pure_bind, partway_eq, List.take_length]

end Sampling

/-! ### One prediction -/

namespace Sampling

/-- The guided prediction of the network for latents that it gets as they are. -/
def predictUnscaled (B : Backend A σ τ) (guidance : A.Elem) (conditioning latents : τ)
    (timestep : A.Elem) : Action σ τ := do
  let doubled ← B.concat latents latents
  let prediction ← B.predict doubled timestep conditioning
  let (unconditional, conditional) ← B.split prediction
  B.guide unconditional conditional guidance

theorem shape_of_predictUnscaled {network : Option (Network A ν)} {guidance timestep : A.Elem}
    {conditioning latents guided : Tensor A.Elem} {state after : ν}
    (predicted : (predictUnscaled (.eager network) guidance conditioning latents timestep).runOn
      state = (.ok guided, after)) : latents.shape = guided.shape := by
  obtain ⟨doubled, _, laid, predicted⟩ := Action.of_bind_ok predicted
  obtain ⟨prediction, _, called, predicted⟩ := Action.of_bind_ok predicted
  obtain ⟨⟨unconditional, conditional⟩, _, cut, guides⟩ := Action.of_bind_ok predicted
  have answered : prediction.shape = doubled.shape := Backend.shape_of_callNetwork called
  have stacked := Backend.stack_of_concat laid
  obtain ⟨halved, alike⟩ := Backend.half_of_split cut
  rw [answered] at halved
  obtain ⟨result, computed, shape⟩ : ((Backend.eager network).guide unconditional conditional
      guidance).Yields (·.shape = unconditional.shape) := Backend.yields_guide guidance rfl alike
  cases (congrArg (Action.runOn · _) computed).symm.trans guides
  exact (shape.trans (Shape.eq_of_stack_half stacked halved)).symm

theorem threaded_denoise_ddim (B : Backend A σ τ) (guidance : A.Elem) (conditioning latents : τ)
    (timestep : A.Elem) (s : Ddim A) :
    (denoise B guidance conditioning latents timestep).threaded (.ddim s) = (do
      let guided ← predictUnscaled B guidance conditioning latents timestep
      let next ← s.advance B guided timestep latents
      return (next, .ddim s)) := by
  have unscaled : ∀ doubled, (Scheduler.scaleInput B doubled timestep).threaded (.ddim s) =
      pure (doubled, .ddim s) := fun _ => rfl
  simp only [threaded_round, conclude, predictUnscaled, unscaled, Scheduler.threaded_step_ddim,
    Ddim.threaded_step, bind_assoc, pure_bind]

end Sampling

/-! ### Two passes through the same noise levels -/

variable {conventions : Conventions}

/-- A pass over sigmas that mirrors a pass over alphas: the sigmas are the noise levels of the
alphas. -/
structure Mirrors (line : Timeline (exact conventions)) (track : SigmaTrack (exact conventions))
    (alpha : Nat → ℝ) : Prop where
  predicts :
    track.schedule.config.predictionType = line.schedule.config.predictionType
  through : line.Through alpha
  sigma : ∀ k ≤ line.timesteps.length, track.sigma k = .ok (levelOf (alpha k))
  positive : ∀ k, 0 < alpha k
  most : ∀ k, alpha k ≤ 1
  noisy : ∀ k < line.timesteps.length, alpha k < 1

variable {line : Timeline (exact conventions)} {track : SigmaTrack (exact conventions)}
  {alpha : Nat → ℝ} {network : Option (Network (exact conventions) ν)} {k : Nat}
  {timestep : ℝ} {rest : List ℝ}

theorem Mirrors.moved (mirrors : Mirrors line track alpha) (place : Option Nat) :
    Mirrors line { track with place } alpha := by
  cases mirrors
  constructor <;> assumption

theorem deviationOf_pos (a : ℝ) : 0 < deviationOf a :=
  Real.sqrt_pos.mpr (add_pos_of_nonneg_of_pos (mul_self_nonneg _) one_pos)

theorem Tensor.map_deviationOf_map (a : ℝ) (x : Tensor ℝ) :
    (x.map (· * deviationOf a)).map (· * (1 / deviationOf a)) = x := by
  have cancels : ∀ u : ℝ, u * deviationOf a * (1 / deviationOf a) = u := fun u =>
    by rw [mul_assoc, mul_one_div_cancel (deviationOf_pos a).ne', mul_one]
  calc (x.map (· * deviationOf a)).map (· * (1 / deviationOf a))
      = x.map (fun u => u * deviationOf a * (1 / deviationOf a)) := ext rfl Array.map_map
    _ = x := map_id_of cancels x

/-- A sample without noise is the same in both variables. -/
theorem Tensor.exceptMap_deviationOf_one (answer : Except Halt (Tensor ℝ)) :
    answer.map (·.map (· * deviationOf 1)) = answer := by
  have one : deviationOf 1 = 1 := by
    rw [deviationOf, levelOf_one, mul_zero, zero_add, Real.sqrt_one]
  have same : ∀ u : ℝ, u * deviationOf 1 = u := fun u => by rw [one, mul_one]
  cases answer with
  | error h => rfl
  | ok x => exact congrArg Except.ok (map_id_of same x)

/-- A pass over sigmas, before its first timestep, with the pass over alphas that it mirrors. -/
structure MirroredPass (line : Timeline (exact conventions))
    (track : SigmaTrack (exact conventions)) (alpha : Nat → ℝ) (steps : Nat) : Prop
    extends Mirrors line track alpha where
  same : track.timesteps = line.timesteps
  length : line.timesteps.length = steps
  some : 0 < steps
  ready : track.Ready 0 track.timesteps
  initial : track.initialDeviation = deviationOf (alpha 0)
  last : alpha steps = 1

namespace Sampling

/-- The network gets what it would get without the change of variables. -/
theorem scaleInput_mirrored (mirrors : Mirrors line track alpha)
    (ready : track.Ready k (timestep :: rest)) (within : k < line.timesteps.length)
    (doubled : Tensor ℝ) :
    (Scheduler.scaleInput (Backend.eager network) (doubled.map (· * deviationOf (alpha k)))
        timestep).threaded (.euler ⟨track⟩) =
      pure (doubled, .euler ⟨{ track with place := some k }⟩) := by
  have found : SigmaTrack.sigma { track with place := some k } k = .ok (levelOf (alpha k)) :=
    mirrors.sigma k within.le
  rw [Scheduler.threaded_scaleInput_euler, SigmaTrack.threaded_scaleInput, ready.located_head,
    Action.ofExcept_ok, pure_bind]
  dsimp only
  rw [found, Action.ofExcept_ok, pure_bind]
  have scaled : (Backend.eager network).scale (doubled.map (· * deviationOf (alpha k)))
      (((1 : Nat) : ℝ) / √(levelOf (alpha k) * levelOf (alpha k) + ((1 : Nat) : ℝ))) =
        pure doubled := by
    rw [Nat.cast_one, ← deviationOf]
    exact congrArg pure (Tensor.map_deviationOf_map (alpha k) doubled)
  exact congrArg (· >>= _) (congrArg (· >>= _) scaled)

theorem threaded_denoise_euler (mirrors : Mirrors line track alpha)
    (ready : track.Ready k (timestep :: rest)) (within : k < line.timesteps.length)
    (guidance : ℝ) (conditioning x : Tensor ℝ) :
    (denoise (Backend.eager network) guidance conditioning (x.map (· * deviationOf (alpha k)))
        timestep).threaded (.euler ⟨track⟩) = (do
      let guided ← predictUnscaled (Backend.eager network) guidance conditioning x timestep
      let next ← Euler.advance (Backend.eager network) { track with place := some k } k guided
        (x.map (· * deviationOf (alpha k)))
      return (next, .euler ⟨{ track with place := some (k + 1) }⟩)) := by
  have located : SigmaTrack.located { track with place := some k } timestep =
      .ok (k, { track with place := some k }) := rfl
  have moved : SigmaTrack.moved { track with place := some k } =
      { track with place := some (k + 1) } := rfl
  rw [threaded_round, Backend.concat_map]
  simp only [scaleInput_mirrored mirrors ready within, conclude, predictUnscaled,
    Scheduler.threaded_step_euler, Euler.threaded_step, located, moved, Action.ofExcept_ok,
    bind_assoc, pure_bind]

theorem denoise_mirrored (network : Option (Network (exact conventions) ν))
    (mirrors : Mirrors line track alpha) (ready : track.Ready k (timestep :: rest))
    (here : line.timesteps[k]? = some timestep) (guidance : ℝ) (conditioning x : Tensor ℝ) :
    ∃ round : Action ν (Tensor ℝ),
      (denoise (Backend.eager network) guidance conditioning x timestep).threaded
          (.ddim ⟨line⟩) =
        (round >>= fun next => pure (next, .ddim ⟨line⟩)) ∧
      (denoise (Backend.eager network) guidance conditioning
          (x.map (· * deviationOf (alpha k))) timestep).threaded (.euler ⟨track⟩) =
        (round >>= fun next => pure (next.map (· * deviationOf (alpha (k + 1))),
          .euler ⟨{ track with place := some (k + 1) }⟩)) := by
  have within := (List.getElem?_eq_some_iff.mp here).1
  refine ⟨predictUnscaled (Backend.eager network) guidance conditioning x timestep >>= fun guided =>
    Ddim.advance (Backend.eager network) ⟨line⟩ guided timestep x, ?_, ?_⟩
  · rw [threaded_denoise_ddim, bind_assoc]
  · rw [threaded_denoise_euler mirrors ready within, bind_assoc]
    -- A prediction that succeeds has the shape of the latents, and both steps need that.
    apply Action.bind_congr_ok
    intro state guided after predicted
    have same := shape_of_predictUnscaled predicted
    have placed := mirrors.moved (some k)
    rw [ddim_advance_exact mirrors.through here same,
      euler_advance_exact (placed.sigma k within.le) (placed.sigma (k + 1) within)
        (mirrors.positive k) (mirrors.noisy k within) (mirrors.positive (k + 1))
        (mirrors.most (k + 1)) same, placed.predicts, pure_bind, pure_bind]

theorem denoiseAll_mirrored (network : Option (Network (exact conventions) ν))
    (mirrors : Mirrors line track alpha) (ready : track.Ready k (line.timesteps.drop k))
    {timesteps : List ℝ} (part : timesteps <+: line.timesteps.drop k) (guidance : ℝ)
    (conditioning x : Tensor ℝ) (completed : Nat) :
    (((denoiseAll (Backend.eager network) guidance conditioning timesteps
        (x.map (· * deviationOf (alpha k)))).threaded completed).threaded (.euler ⟨track⟩) >>=
        fun ended => pure ended.1) =
      ((denoiseAll (Backend.eager network) guidance conditioning timesteps x).threaded
        completed).threaded (.ddim ⟨line⟩) >>= fun ended =>
          pure (ended.1.1.map (· * deviationOf (alpha (k + timesteps.length))), ended.1.2) := by
  -- The schedulers that are left differ in kind, so only latents and counts are compared.
  induction timesteps generalizing track k x completed with
  | nil => rfl
  | cons timestep later ih =>
      obtain ⟨more, due⟩ := part
      have here : line.timesteps[k]? = some timestep := by
        rw [← List.head?_drop, ← due]
        rfl
      have dropped : line.timesteps.drop (k + 1) = later ++ more := by
        rw [← List.tail_drop, ← due]
        rfl
      rw [← due] at ready
      have moved : SigmaTrack.Ready { track with place := some (k + 1) } (k + 1)
          (line.timesteps.drop (k + 1)) := by
        rw [dropped]
        exact ready.moved
      obtain ⟨round, implicit, sigmas⟩ :=
        denoise_mirrored network mirrors ready here guidance conditioning x
      have length : k + (timestep :: later).length = k + 1 + later.length := by
        rw [List.length_cons]
        omega
      rw [threaded_denoiseAll, threaded_denoiseAll, implicit, sigmas, length]
      simp only [bind_assoc, pure_bind,
        ih (mirrors.moved (some (k + 1))) moved ⟨more, dropped.symm⟩]

/-- Both loops start from the same latents, and the scheduler over sigmas scales its own. -/
theorem noisy_mirrored {steps : Nat} (network : Option (Network (exact conventions) ν))
    (pass : MirroredPass line track alpha steps) (latents : Tensor ℝ) :
    (Backend.eager network).scale latents
        (Scheduler.euler (A := exact conventions) (τ := Tensor ℝ) ⟨track⟩).initialDeviation =
      pure (latents.map (· * deviationOf (alpha 0))) ∧
    (Backend.eager network).scale latents
        (Scheduler.ddim (A := exact conventions) (τ := Tensor ℝ) ⟨line⟩).initialDeviation =
      pure latents := by
  have one : ∀ u : ℝ, u * ((1 : Nat) : ℝ) = u := fun u => by rw [Nat.cast_one, mul_one]
  exact ⟨congrArg (fun c : ℝ => pure (latents.map (· * c))) pass.initial,
    congrArg pure (Tensor.map_id_of one latents)⟩

theorem partway_mirrored {steps : Nat} (network : Option (Network (exact conventions) ν))
    (pass : MirroredPass line track alpha steps) (guidance : ℝ) (latents conditioning : Tensor ℝ)
    (start : ν) (within : k ≤ steps) :
    partway (Backend.eager network) guidance latents conditioning start (.euler ⟨track⟩) k =
      let (answer, left) :=
        partway (Backend.eager network) guidance latents conditioning start (.ddim ⟨line⟩) k
      (answer.map (·.map (· * deviationOf (alpha k))), left) := by
  have count : 0 + (line.timesteps.take k).length = k := by
    rw [Nat.zero_add, List.length_take, pass.length, Nat.min_eq_left within]
  obtain ⟨noisy, plain⟩ := noisy_mirrored network pass latents
  have loops := denoiseAll_mirrored network pass.toMirrors (pass.same ▸ pass.ready)
    (List.take_prefix k line.timesteps) guidance conditioning latents 0
  rw [count] at loops
  rw [partway_eq, partway_eq, noisy, plain, pure_bind, pure_bind]
  dsimp only [Scheduler.timesteps]
  rw [pass.same]
  exact Action.answers_of_mapped loops start

/-- At the end of the pass no noise is left, and the samples are equal. -/
theorem outcome_mirrored {steps : Nat} (network : Option (Network (exact conventions) ν))
    (pass : MirroredPass line track alpha steps) (guidance : ℝ) (latents conditioning : Tensor ℝ)
    (start : ν) :
    let ended := outcome (Backend.eager network) guidance latents conditioning start
    (ended (.euler ⟨track⟩)).answer = (ended (.ddim ⟨line⟩)).answer ∧
      (ended (.euler ⟨track⟩)).backend = (ended (.ddim ⟨line⟩)).backend := by
  intro ended
  have whole : ∀ scheduler : Scheduler (exact conventions) (Tensor ℝ),
      scheduler.timesteps = line.timesteps →
      ((ended scheduler).answer, (ended scheduler).backend) =
        match checkShapes latents.shape conditioning.shape with
        | .ok _ =>
          partway (Backend.eager network) guidance latents conditioning start scheduler steps
        | .error h => (.error h, start) := by
    intro scheduler same
    have due : scheduler.timesteps ≠ [] := by
      apply List.length_pos_iff.mp
      rw [same, pass.length]
      exact pass.some
    rw [← pass.length, ← same]
    exact outcome_eq_partway (Backend.eager network) guidance latents conditioning start scheduler
      due
  have final :
      partway (Backend.eager network) guidance latents conditioning start (.euler ⟨track⟩) steps =
        partway (Backend.eager network) guidance latents conditioning start (.ddim ⟨line⟩)
          steps := by
    rw [partway_mirrored network pass guidance latents conditioning start le_rfl, pass.last]
    dsimp only
    rw [Tensor.exceptMap_deviationOf_one]
  apply Prod.mk.inj
  rw [whole (.euler ⟨track⟩) pass.same, whole (.ddim ⟨line⟩) rfl, final]

end Sampling

theorem mirrors_of_plan {schedule : NoiseSchedule (exact conventions)} {steps : Nat}
    (decays : schedule.Decays) (one : schedule.config.setAlphaToOne = true)
    (room : schedule.config.numTrainTimesteps < NoiseSchedule.tableLimit)
    (apart : schedule.config.stepsOffset < schedule.config.numTrainTimesteps / steps)
    (alphas : (Timeline.unplanned schedule).plan steps = .ok line)
    (sigmas : (SigmaTrack.unplanned schedule).plan steps = .ok track) :
    MirroredPass line track (schedule.passAlpha steps) steps := by
  obtain ⟨some, length⟩ := Timeline.length_of_plan alphas
  have ratio : schedule.config.stepsOffset < schedule.stepRatio steps := by
    rw [NoiseSchedule.stepRatio, Nat.max_eq_left some]
    exact apart
  have through := Timeline.through_of_plan alphas one room ratio
  have levels : ∀ k ≤ steps, track.sigma k = .ok (levelOf (schedule.passAlpha steps k)) :=
    fun k inside => SigmaTrack.sigma_of_plan sigmas room inside
  have initial := SigmaTrack.initialDeviation_of_plan decays sigmas room
  have sound := SigmaTrack.sound_of_plan (exact_countsAreNumbers conventions) sigmas
  obtain ⟨-, length', start⟩ := SigmaTrack.length_of_plan sigmas
  have ready := sound.ready_pass (List.length_pos_iff.mp (length' ▸ some)) start
  obtain ⟨timesteps, led, rfl⟩ := Timeline.of_plan alphas
  obtain ⟨timesteps', led', rfl⟩ := SigmaTrack.of_plan sigmas
  cases led.symm.trans led'
  exact
    { predicts := rfl
      through := through
      sigma := fun k inside => levels k (inside.trans length.le)
      positive := decays.passAlpha_pos steps
      most := decays.passAlpha_le_one steps
      noisy := fun k inside => decays.passAlpha_lt_one (inside.trans_le length.le)
      same := rfl
      length := length
      some := some
      ready := ready
      initial := initial
      last := if_neg (lt_irrefl steps) }

/-- In exact numbers Euler's method over sigmas and the implicit method over alphas make the same
calls of the network, with the same answers, and end alike. All along the way the one sample is the
other times `sqrt (sigma ^ 2 + 1)`, down to the sigma zero. -/
theorem outcome_euler_eq_ddim {config : ScheduleConfig (exact conventions)} {seed seed' : UInt64}
    {steps : Nat} {ddim euler : Scheduler (exact conventions) (Tensor ℝ)}
    (betas : ∀ beta : ℝ, beta ∈ NoiseSchedule.betasOf config → 0 < beta ∧ beta < 1)
    (one : config.setAlphaToOne = true)
    (apart : config.stepsOffset < config.numTrainTimesteps / steps)
    (alphas : Scheduler.planned .ddim config seed steps = .ok ddim)
    (sigmas : Scheduler.planned .eulerDiscrete config seed' steps = .ok euler)
    (network : Network (exact conventions) ν) (guidance : ℝ) (latents conditioning : Tensor ℝ)
    (start : ν) :
    let B := Backend.eager (some network.overheard)
    let ended := Sampling.outcome B guidance latents conditioning (start, [])
    let after := Sampling.partway B guidance latents conditioning (start, [])
    (ended euler).answer = (ended ddim).answer ∧ (ended euler).backend = (ended ddim).backend ∧
      ∃ (track : SigmaTrack (exact conventions)) (sigma : Nat → ℝ), euler = .euler ⟨track⟩ ∧
        (∀ k ≤ steps, track.sigma k = .ok (sigma k)) ∧
        track.initialDeviation = √(sigma 0 * sigma 0 + 1) ∧ sigma steps = 0 ∧
        ∀ k ≤ steps, after euler k =
          ((after ddim k).1.map (·.map (· * √(sigma k * sigma k + 1))), (after ddim k).2) := by
  intro B ended after
  obtain ⟨schedule, scheduled, ran⟩ := Scheduler.planned_eq_ok_iff.mp alphas
  obtain ⟨schedule', scheduled', ran'⟩ := Scheduler.planned_eq_ok_iff.mp sigmas
  cases scheduled.symm.trans scheduled'
  obtain ⟨rfl, room⟩ := NoiseSchedule.config_of_ofConfig scheduled
  have decays := NoiseSchedule.decays_of_ofConfig scheduled betas
  cases Scheduler.plans_of_ok ran with
  | @ddim _ line planned =>
    cases Scheduler.plans_of_ok ran' with
    | @euler _ track planned' =>
      have pass := mirrors_of_plan decays one room apart planned planned'
      obtain ⟨answer, backend⟩ := Sampling.outcome_mirrored (some network.overheard) pass guidance
        latents conditioning (start, [])
      refine ⟨answer, backend, track, fun k => levelOf (schedule.passAlpha steps k), rfl, ?_,
        pass.initial, ?_, ?_⟩
      · intro k within
        exact pass.sigma k (within.trans pass.length.ge)
      · change levelOf (schedule.passAlpha steps steps) = 0
        rw [pass.last, levelOf_one]
      · intro k within
        exact Sampling.partway_mirrored (some network.overheard) pass guidance latents conditioning
          (start, []) within

/-- Two training timesteps, with betas of a quarter and a half. -/
noncomputable def twoBetas : ScheduleConfig (exact .silent) where
  numTrainTimesteps := 2
  betaStart := (1 / 4 : ℝ)
  betaEnd := (1 / 2 : ℝ)
  betaSpacing := .linear
  stepsOffset := 0
  setAlphaToOne := true
  predictionType := .vPrediction

theorem betasOf_twoBetas (beta : ℝ) (listed : beta ∈ NoiseSchedule.betasOf twoBetas) :
    0 < beta ∧ beta < 1 := by
  have entries : NoiseSchedule.betasOf twoBetas = (Array.range 2).map fun i : Nat =>
      ((1 / 4 : ℝ) + (1 / 2 - 1 / 4) / ((1 : Nat) : ℝ) * (i : ℝ)) := rfl
  rw [entries] at listed
  obtain ⟨i, inside, rfl⟩ := Array.mem_map.mp listed
  have places : i = 0 ∨ i = 1 := by
    have := Array.mem_range.mp inside
    omega
  rcases places with rfl | rfl <;> norm_num

/-- Two steps with a network that answers with the sample times the timestep. -/
theorem outcome_euler_eq_ddim_twoBetas :
    ∃ ddim euler : Scheduler (exact .silent) (Tensor ℝ),
      Scheduler.planned .ddim twoBetas 0 2 = .ok ddim ∧
      Scheduler.planned .eulerDiscrete twoBetas 0 2 = .ok euler ∧
      let network : Network (exact .silent) Unit :=
        .ofFunction fun sample timestep _ => .ok (sample.scale timestep)
      let ended := Sampling.outcome (Backend.eager (some network.overheard)) (15 / 2 : ℝ)
        (Tensor.fill [1, 4, 1, 1] (3 : ℝ)) (Tensor.fill [2, 77, 1] (0 : ℝ)) ((), [])
      (∃ result, (ended ddim).answer = .ok result) ∧
        (ended euler).answer = (ended ddim).answer ∧
        (ended euler).backend = (ended ddim).backend := by
  obtain ⟨ddim, alphas⟩ : ∃ ddim : Scheduler (exact .silent) (Tensor ℝ),
      Scheduler.planned .ddim twoBetas 0 2 = .ok ddim := ⟨_, rfl⟩
  obtain ⟨euler, sigmas⟩ : ∃ euler : Scheduler (exact .silent) (Tensor ℝ),
      Scheduler.planned .eulerDiscrete twoBetas 0 2 = .ok euler := ⟨_, rfl⟩
  refine ⟨ddim, euler, alphas, sigmas, ?_⟩
  intro network ended
  have obedient : network.Obedient := fun _ _ _ _ => ⟨_, (), rfl, rfl⟩
  have latentShape : (Tensor.fill [1, 4, 1, 1] (3 : ℝ)).shape =
      [1, InputShapes.latentChannels, 1, 1] := rfl
  have conditioningShape : (Tensor.fill [2, 77, 1] (0 : ℝ)).shape = [2 * 1, 77, 1] := rfl
  obtain ⟨result, answered, -⟩ := Sampling.outcome_answered (exact_countsAreNumbers .silent) alphas
    obedient.overheard Nat.one_pos latentShape conditioningShape (by decide) (15 / 2 : ℝ) ((), [])
  obtain ⟨answer, backend, -⟩ := outcome_euler_eq_ddim betasOf_twoBetas rfl (by decide) alphas
    sigmas network (15 / 2 : ℝ) (Tensor.fill [1, 4, 1, 1] (3 : ℝ))
    (Tensor.fill [2, 77, 1] (0 : ℝ)) ()
  exact ⟨⟨result, answered⟩, answer, backend⟩

end Diffusion
