import Diffusion.Proofs.Action
import Diffusion.Sampling

/-!
What one call of a scheduler does, with the scheduler's state as a value.

Each equation takes a call apart into what the state decides beforehand, one computation on the
backend, and the state that follows if it succeeds. Main statements: `Sampling.threaded_round` and
`Sampling.threaded_run`, for the loop.
-/

namespace Diffusion

variable {A : Arithmetic} {σ τ : Type}

namespace SigmaTrack

def located (s : SigmaTrack A) (timestep : A.Elem) : Except Halt (Nat × SigmaTrack A) :=
  match s.place with
  | some i => .ok (i, s)
  | none => (indexForTimestep s.timesteps timestep).map fun i => (i, { s with place := some i })

theorem runOn_locate (s : SigmaTrack A) (timestep : A.Elem) :
    (locate timestep).runOn s =
      match s.located timestep with
      | .ok (i, placed) => (.ok i, placed)
      | .error h => (.error h, s) := by
  obtain ⟨schedule, timesteps, sigmas, place⟩ := s
  cases place with
  | some i => rfl
  | none =>
      have found : ((locate timestep).runOn ⟨schedule, timesteps, sigmas, none⟩) =
          ((Action.ofExcept (indexForTimestep timesteps timestep) >>= fun i => do
            set (⟨schedule, timesteps, sigmas, some i⟩ : SigmaTrack A)
            return i) : Action (SigmaTrack A) Nat).runOn ⟨schedule, timesteps, sigmas, none⟩ := rfl
      rw [found, located]
      cases indexForTimestep timesteps timestep <;> rfl

theorem threaded_locate (s : SigmaTrack A) (timestep : A.Elem) :
    (Action.onSecond (locate timestep) : Action (σ × SigmaTrack A) Nat).threaded s =
      Action.ofExcept (s.located timestep) := by
  rw [Action.threaded_onSecond, runOn_locate]
  congr 1
  rcases s.located timestep with _ | ⟨_, _⟩ <;> rfl

theorem threaded_scaleInput (B : Backend A σ τ) (s : SigmaTrack A) (sample : τ)
    (timestep : A.Elem) :
    (scaleInput B sample timestep).threaded s = (do
      let (i, s) ← Action.ofExcept (s.located timestep)
      let sigma ← Action.ofExcept (s.sigma i)
      let scaled ← B.scale sample (A.narrow (1 / A.sqrt (sigma * sigma + 1)))
      return (scaled, s)) := by
  simp only [scaleInput, Action.threaded_bind, threaded_locate, Action.threaded_onSecond_get,
    Action.threaded_ofExcept, Action.threaded_onFirst, bind_assoc, pure_bind]

end SigmaTrack

theorem Pndm.threaded_step (B : Backend A σ τ) (s : Pndm A τ) (output : τ) (timestep : A.Elem)
    (sample : τ) :
    (Pndm.step B output timestep sample).threaded s = (do
      let previous ← (s.remember output).advance B timestep sample
      return (previous, s.remember output)) := by
  simp only [Pndm.step, Action.threaded_bind, Action.threaded_onSecond_get,
    Action.threaded_onSecond_set, Action.threaded_onFirst, pure_bind]

theorem Ddim.threaded_step (B : Backend A σ τ) (s : Ddim A) (output : τ) (timestep : A.Elem)
    (sample : τ) :
    (Ddim.step B output timestep sample).threaded s = (do
      let previous ← s.advance B output timestep sample
      return (previous, s)) := by
  simp only [Ddim.step, Action.threaded_bind, Action.threaded_onSecond_get,
    Action.threaded_onFirst, pure_bind]

theorem Ddpm.threaded_step (B : Backend A σ τ) (s : Ddpm A) (output : τ) (timestep : A.Elem)
    (sample : τ) :
    (Ddpm.step B output timestep sample).threaded s = (do
      let previous ← s.advance B output timestep sample
      return (previous, { s with steps := s.steps + 1 })) := by
  simp only [Ddpm.step, Action.threaded_bind, Action.threaded_onSecond_get, bind_assoc,
    Action.threaded_onSecond_set, Action.threaded_onFirst, Action.threaded_pure, pure_bind]

theorem Euler.threaded_step (B : Backend A σ τ) (s : SigmaTrack A) (output : τ)
    (timestep : A.Elem) (sample : τ) :
    (Euler.step B output timestep sample).threaded s = (do
      let (i, s) ← Action.ofExcept (s.located timestep)
      let previous ← Euler.advance B s i output sample
      return (previous, s.moved)) := by
  simp only [Euler.step, Action.threaded_bind, SigmaTrack.threaded_locate,
    Action.threaded_onSecond_get, bind_assoc, Action.threaded_onSecond_set,
    Action.threaded_onFirst, Action.threaded_pure, pure_bind]

theorem EulerAncestral.threaded_step (B : Backend A σ τ) (s : SigmaTrack A) (seed : UInt64)
    (output : τ) (timestep : A.Elem) (sample : τ) :
    (EulerAncestral.step B seed output timestep sample).threaded s = (do
      let (i, s) ← Action.ofExcept (s.located timestep)
      let previous ← EulerAncestral.advance B seed s i output sample
      return (previous, s.moved)) := by
  simp only [EulerAncestral.step, Action.threaded_bind, SigmaTrack.threaded_locate,
    Action.threaded_onSecond_get, bind_assoc, Action.threaded_onSecond_set,
    Action.threaded_onFirst, Action.threaded_pure, pure_bind]

namespace LinearMultistep

/-- Of the derivatives remembered the newest one counts. -/
theorem exists_order {derivatives : List τ} (i : Nat) (some : derivatives ≠ []) :
    ∃ order, min (min (i + 1) memory) derivatives.length = order + 1 := by
  have positive := List.length_pos_iff.mpr some
  exact Nat.exists_eq_add_one.mpr (by unfold memory; omega)

theorem threaded_onTrack {α : Type} (x : Action (σ × SigmaTrack A) α)
    (s : LinearMultistep A τ) :
    (onTrack x).threaded s = (do
      let (a, track) ← x.threaded s.track
      return (a, { s with track })) := by
  apply Action.ext
  intro w
  have within : (onTrack x).runOn (w, s) =
      let ran := x.runOn (w, s.track)
      (ran.1, ran.2.1, { s with track := ran.2.2 }) := rfl
  rw [Action.runOn_bind, Action.runOn_threaded, Action.runOn_threaded, within]
  rcases x.runOn (w, s.track) with ⟨_ | _, _, _⟩ <;> rfl

theorem threaded_step (B : Backend A σ τ) (s : LinearMultistep A τ) (output : τ)
    (timestep : A.Elem) (sample : τ) :
    (LinearMultistep.step B output timestep sample).threaded s = (do
      let (i, track) ← Action.ofExcept (s.track.located timestep)
      let sigma ← Action.ofExcept (track.sigma i)
      let derivative ← track.derivative B sigma output sample
      let s := remember { s with track } derivative
      let previous ← s.advance B i sample
      return (previous, { s with track := track.moved })) := by
  simp only [step, Action.threaded_bind, threaded_onTrack, SigmaTrack.threaded_locate,
    Action.threaded_onSecond_get, Action.threaded_ofExcept, bind_assoc,
    Action.threaded_onSecond_set, Action.threaded_onFirst, Action.threaded_pure, pure_bind]
  rfl

end LinearMultistep

namespace Scheduler

/-- A call inside a part of a scheduler is that call, put back into the scheduler. -/
theorem threaded_inside {S α : Type} (wrap : S → Scheduler A τ) (x : Action (σ × S) α) (s : S)
    {call : Action (σ × Scheduler A τ) α} {scheduler : Scheduler A τ}
    (within : ∀ w, call.runOn (w, scheduler) = inside wrap x w s) :
    call.threaded scheduler = (do
      let (a, s) ← x.threaded s
      return (a, wrap s)) := by
  apply Action.ext
  intro w
  rw [Action.runOn_threaded, within, Action.runOn_bind, Action.runOn_threaded, inside]
  rcases x.runOn (w, s) with ⟨_ | _, _, _⟩ <;> rfl

variable (B : Backend A σ τ) (output sample : τ) (timestep : A.Elem)

theorem threaded_step_pndm (s : Pndm A τ) :
    (step B output timestep sample).threaded (pndm s) = (do
      let (previous, s) ← (Pndm.step B output timestep sample).threaded s
      return (previous, pndm s)) :=
  threaded_inside pndm _ s fun _ => rfl

theorem threaded_step_ddim (s : Ddim A) :
    (step B output timestep sample).threaded (ddim s) = (do
      let (previous, s) ← (Ddim.step B output timestep sample).threaded s
      return (previous, ddim s)) :=
  threaded_inside ddim _ s fun _ => rfl

theorem threaded_step_ddpm (s : Ddpm A) :
    (step B output timestep sample).threaded (ddpm s) = (do
      let (previous, s) ← (Ddpm.step B output timestep sample).threaded s
      return (previous, ddpm s)) :=
  threaded_inside ddpm _ s fun _ => rfl

theorem threaded_step_euler (s : Euler A) :
    (step B output timestep sample).threaded (euler s) = (do
      let (previous, track) ← (Euler.step B output timestep sample).threaded s.track
      return (previous, euler ⟨track⟩)) :=
  threaded_inside (fun track => euler ⟨track⟩) (Euler.step B output timestep sample) s.track
    fun _ => rfl

theorem threaded_step_eulerAncestral (s : EulerAncestral A) :
    (step B output timestep sample).threaded (eulerAncestral s) = (do
      let (previous, track) ←
        (EulerAncestral.step B s.seed output timestep sample).threaded s.track
      return (previous, eulerAncestral { s with track })) :=
  threaded_inside (fun track => eulerAncestral { s with track })
    (EulerAncestral.step B s.seed output timestep sample) s.track fun _ => rfl

theorem threaded_step_linearMultistep (s : LinearMultistep A τ) :
    (step B output timestep sample).threaded (linearMultistep s) = (do
      let (previous, s) ← (LinearMultistep.step B output timestep sample).threaded s
      return (previous, linearMultistep s)) :=
  threaded_inside linearMultistep _ s fun _ => rfl

theorem threaded_scaleInput_euler (s : Euler A) :
    (scaleInput B sample timestep).threaded (euler s) = (do
      let (scaled, track) ← (SigmaTrack.scaleInput B sample timestep).threaded s.track
      return (scaled, euler ⟨track⟩)) :=
  threaded_inside (fun track => euler ⟨track⟩) (SigmaTrack.scaleInput B sample timestep) s.track
    fun _ => rfl

theorem threaded_scaleInput_eulerAncestral (s : EulerAncestral A) :
    (scaleInput B sample timestep).threaded (eulerAncestral s) = (do
      let (scaled, track) ← (SigmaTrack.scaleInput B sample timestep).threaded s.track
      return (scaled, eulerAncestral { s with track })) :=
  threaded_inside (fun track => eulerAncestral { s with track })
    (SigmaTrack.scaleInput B sample timestep) s.track fun _ => rfl

theorem threaded_scaleInput_linearMultistep (s : LinearMultistep A τ) :
    (scaleInput B sample timestep).threaded (linearMultistep s) = (do
      let (scaled, track) ← (SigmaTrack.scaleInput B sample timestep).threaded s.track
      return (scaled, linearMultistep { s with track })) := by
  rw [threaded_inside linearMultistep
    (LinearMultistep.onTrack (SigmaTrack.scaleInput B sample timestep)) s fun _ => rfl,
    LinearMultistep.threaded_onTrack]
  simp only [bind_assoc, pure_bind]

end Scheduler

namespace Sampling

variable (B : Backend A σ τ) (guidance : A.Elem)

theorem threaded_predictGuided (conditioning latents : τ) (timestep : A.Elem)
    (scheduler : Scheduler A τ) :
    (predictGuided B guidance conditioning latents timestep).threaded scheduler = (do
      let doubled ← B.concat latents latents
      let (input, scheduler) ← (Scheduler.scaleInput B doubled timestep).threaded scheduler
      let prediction ← B.predict input timestep conditioning
      let (unconditional, conditional) ← B.split prediction
      let guided ← B.guide unconditional conditional guidance
      return (guided, scheduler)) := by
  simp only [predictGuided, Action.threaded_bind, Action.threaded_onFirst, bind_assoc, pure_bind]

theorem threaded_denoise (conditioning latents : τ) (timestep : A.Elem)
    (scheduler : Scheduler A τ) :
    (denoise B guidance conditioning latents timestep).threaded scheduler = (do
      let (guided, scheduler) ←
        (predictGuided B guidance conditioning latents timestep).threaded scheduler
      (Scheduler.step B guided timestep latents).threaded scheduler) := by
  simp only [denoise, Action.threaded_bind]

/-- What a round does with the prediction of the network. -/
def conclude (timestep : A.Elem) (latents prediction : τ) (scheduler : Scheduler A τ) :
    Action σ (τ × Scheduler A τ) := do
  let (unconditional, conditional) ← B.split prediction
  let guided ← B.guide unconditional conditional guidance
  (Scheduler.step B guided timestep latents).threaded scheduler

/-- A round around its call of the network. -/
theorem threaded_round (conditioning latents : τ) (timestep : A.Elem) (scheduler : Scheduler A τ) :
    (denoise B guidance conditioning latents timestep).threaded scheduler = (do
      let doubled ← B.concat latents latents
      let (input, scheduler) ← (Scheduler.scaleInput B doubled timestep).threaded scheduler
      let prediction ← B.predict input timestep conditioning
      conclude B guidance timestep latents prediction scheduler) := by
  rw [threaded_denoise, threaded_predictGuided]
  simp only [conclude, bind_assoc, pure_bind]

/-- The loop over timesteps as one on the scheduler and the number of timesteps completed. -/
theorem threaded_denoiseAll (conditioning latents : τ) (timestep : A.Elem) (rest : List A.Elem)
    (scheduler : Scheduler A τ) (completed : Nat) :
    ((denoiseAll B guidance conditioning (timestep :: rest) latents).threaded completed).threaded
        scheduler = (do
      let (latents, scheduler) ←
        (denoise B guidance conditioning latents timestep).threaded scheduler
      ((denoiseAll B guidance conditioning rest latents).threaded (completed + 1)).threaded
        scheduler) := by
  simp only [denoiseAll, Action.threaded_bind, Action.threaded_onFirst,
    Action.threaded_onSecond_modify, bind_assoc, pure_bind]

theorem threaded_run (latents conditioning : τ) (scheduler : Scheduler A τ) (completed : Nat) :
    ((run B guidance latents conditioning).threaded completed).threaded scheduler =
      if scheduler.timesteps.isEmpty then Action.fail (.noTimesteps "(no timesteps set)")
      else (do
        Action.ofExcept (checkShapes (B.shape latents) (B.shape conditioning))
        let noisy ← B.scale latents scheduler.initialDeviation
        ((denoiseAll B guidance conditioning scheduler.timesteps noisy).threaded
          completed).threaded scheduler) := by
  have first : ((run B guidance latents conditioning).threaded completed).threaded scheduler =
      ((if scheduler.timesteps.isEmpty then Action.fail (.noTimesteps "(no timesteps set)")
        else do
          Action.ofExcept (checkShapes (B.shape latents) (B.shape conditioning))
          let noisy ← Action.onFirst (Action.onFirst (B.scale latents scheduler.initialDeviation))
          denoiseAll B guidance conditioning scheduler.timesteps noisy :
        Action ((σ × Scheduler A τ) × Nat) τ).threaded completed).threaded scheduler := rfl
  rw [first]
  split
  · rfl
  · simp only [Action.threaded_bind, Action.threaded_ofExcept, Action.threaded_onFirst,
      bind_assoc, pure_bind]

theorem outcome_eq (latents conditioning : τ) (backend : σ) (scheduler : Scheduler A τ) :
    let ended := outcome B guidance latents conditioning backend scheduler
    let ran := (((run B guidance latents conditioning).threaded 0).threaded scheduler).runOn backend
    ended.answer = ran.1.map (fun result => result.1.1) ∧ ended.backend = ran.2 := by
  intro ended ran
  have unfolded : ran = (match (run B guidance latents conditioning).runOn
      ((backend, scheduler), 0) with
    | (.ok a, (s, r), n) => (.ok ((a, n), r), s)
    | (.error h, (s, _), _) => (.error h, s)) := by
    change (((run B guidance latents conditioning).threaded 0).threaded scheduler).runOn
      backend = _
    rw [Action.runOn_threaded, Action.runOn_threaded]
    rcases (run B guidance latents conditioning).runOn ((backend, scheduler), 0) with
      ⟨_ | _, ⟨_, _⟩, _⟩ <;> rfl
  rw [unfolded]
  change (outcome B guidance latents conditioning backend scheduler).answer = _ ∧
    (outcome B guidance latents conditioning backend scheduler).backend = _
  unfold outcome
  rcases (run B guidance latents conditioning).runOn ((backend, scheduler), 0) with
    ⟨_ | _, ⟨_, _⟩, _⟩ <;> exact ⟨rfl, rfl⟩

end Sampling

end Diffusion
