import Diffusion.Proofs.Sampling.Rounds
import Diffusion.Proofs.Trace.Draft
import Diffusion.Proofs.Trace.Replay

/-!
What a traced loop looks like.

Every round of the loop adds one call of the network to the draft, and the latents that it ends with
need this call and whatever the latents before needed. Main statement: `sample_unrolls`, by which
tracing a planned pass succeeds, with a call for each timestep and none that the result does not
need.
-/

namespace Diffusion

variable {A : Arithmetic} {batch : Nat} {image : Shape} {w : Draft A} {conditioning latents : Value}
  {timestep : A.Elem} {rest : List A.Elem} {scheduler : Scheduler A Value}

namespace Draft

theorem fits_of_grows {w w' : Draft A} {timesteps : List A.Elem} {s : Shape}
    (grows : w.Grows w' timesteps) (v : Value) (fits : (tracing A s).Fits w v) :
    (tracing A s).Fits w' v :=
  ⟨fits.1.of_grows grows, fits.2⟩

theorem Result.of_drawn {w w' : Draft A} {s : Shape} {sources : List Value} {v : Value}
    (grows : w.Grows w' []) (drawn : (tracing A s).Drawn w sources w' v) :
    w.Result [] sources s w' v :=
  ⟨grows, drawn.fits.1, drawn.fits.2, drawn.fed⟩

theorem goes_scaleInput {doubled : Value} {s : Shape} (has : w.Has doubled)
    (ready : scheduler.ReadyFor ((tracing A s).Fits w) (timestep :: rest)) :
    w.Goes ((Scheduler.scaleInput (Backend.tracer A) doubled timestep).threaded scheduler)
      fun w' scaled => w.Result [] [doubled] doubled.shape w' scaled.1 ∧
        scaled.2.ReadyFor ((tracing A s).Fits w') (timestep :: rest) := by
  obtain ⟨placed, still, -, same | ⟨factor, scaled⟩⟩ :=
    ready.scaleInput (Backend.tracer A) doubled (due_head timestep rest)
  · rw [same]
    exact goes_pure ⟨⟨grows_refl w, has, rfl, List.forall_mem_singleton.mpr id⟩, still⟩
  · rw [scaled]
    exact (goes_scale factor has).bind fun w' _ result =>
      goes_pure ⟨result, still.imp (fits_of_grows result.grows)⟩

end Draft

namespace Sampling

open Draft

theorem goes_denoise (inhabited : 0 < batch) (word : 2 * batch < Halt.wordLimit)
    (guidance : A.Elem) (hidden : w.Has conditioning)
    (rows : conditioning.shape.head? = some (2 * batch)) (latent : w.Has latents)
    (shape : latents.shape = batch :: image)
    (ready : scheduler.ReadyFor ((tracing A (batch :: image)).Fits w) (timestep :: rest)) :
    w.Goes ((denoise (Backend.tracer A) guidance conditioning latents timestep).threaded scheduler)
      fun w' stepped => w.Result [timestep] [latents] (batch :: image) w' stepped.1 ∧
        stepped.2.ReadyFor ((tracing A (batch :: image)).Fits w') rest := by
  let C := tracing A (batch :: image)
  have stacked : Shape.stack? latents.shape latents.shape = some (2 * batch :: image) :=
    shape ▸ Shape.stack?_self batch image
  rw [threaded_round]
  refine (goes_concat latent latent stacked word).bind fun w₁ doubled laid => ?_
  refine (goes_scaleInput laid.has (ready.imp (fits_of_grows laid.grows))).bind ?_
  rintro w₂ ⟨input, placed⟩ ⟨scaled, still⟩
  have inputShape : input.shape = 2 * batch :: image := scaled.shape.trans laid.shape
  have before := laid.grows.trans scaled.grows
  refine (goes_predict timestep scaled.has (hidden.of_grows before) ?_).bind
    fun w₃ prediction called => ?_
  · rw [inputShape, rows]
    rfl
  have halved : Shape.half? prediction.shape = some (batch :: image) := by
    rw [called.shape, inputShape]
    exact Shape.half?_double inhabited image
  refine (goes_split called.has halved).bind ?_
  rintro w₄ ⟨unconditional, conditional⟩ ⟨first, second⟩
  refine (C.drawn_guide (w := w₄) guidance ⟨first.has, first.shape⟩
    ⟨second.has, second.shape⟩).bind fun w₅ guided ⟨grows, combined⟩ => ?_
  have upTo : w.Result [timestep] [latents] (batch :: image) w₅ guided :=
    (laid.mono (by simp)).trans <| scaled.trans <| called.trans <| first.trans <|
      .of_drawn grows combined
  have readyNow := still.imp (fits_of_grows (called.grows.trans (first.grows.trans grows)))
  refine (C.meets_step (w := w₅) readyNow combined.fits
    ⟨latent.of_grows upTo.grows, shape⟩).imp fun w₆ stepped ⟨further, drawn, left⟩ => ?_
  exact ⟨upTo.trans (.of_drawn further drawn), left⟩

theorem goes_denoiseAll (inhabited : 0 < batch) (word : 2 * batch < Halt.wordLimit)
    (guidance : A.Elem) (hidden : w.Has conditioning)
    (rows : conditioning.shape.head? = some (2 * batch)) (latent : w.Has latents)
    (shape : latents.shape = batch :: image) {timesteps : List A.Elem}
    (ready : scheduler.ReadyFor ((tracing A (batch :: image)).Fits w) timesteps)
    (completed : Nat) :
    w.Goes (((denoiseAll (Backend.tracer A) guidance conditioning timesteps latents).threaded
      completed).threaded scheduler) fun w' ended =>
        w.Result timesteps [latents] (batch :: image) w' ended.1.1 := by
  induction timesteps generalizing w latents scheduler completed with
  | nil => exact goes_pure ⟨grows_refl w, latent, shape, List.forall_mem_singleton.mpr id⟩
  | cons timestep rest ih =>
      rw [threaded_denoiseAll]
      refine (goes_denoise inhabited word guidance hidden rows latent shape ready).bind ?_
      rintro w' ⟨next, left⟩ ⟨round, leftReady⟩
      refine (ih (hidden.of_grows round.grows) round.has round.shape leftReady _).imp ?_
      exact fun w'' ended later => round.trans later

theorem goes_run (inhabited : 0 < batch) (word : 2 * batch < Halt.wordLimit) (guidance : A.Elem)
    (planned : scheduler.timesteps ≠ []) (hidden : w.Has conditioning) (latent : w.Has latents)
    (accepted : checkShapes latents.shape conditioning.shape = .ok ())
    (rows : conditioning.shape.head? = some (2 * batch)) (shape : latents.shape = batch :: image)
    (ready : scheduler.ReadyFor ((tracing A (batch :: image)).Fits w) scheduler.timesteps) :
    w.Goes (((run (Backend.tracer A) guidance latents conditioning).threaded 0).threaded scheduler)
      fun w' ended => w.Result scheduler.timesteps [latents] (batch :: image) w' ended.1.1 := by
  have shapes : checkShapes ((Backend.tracer A).shape latents)
      ((Backend.tracer A).shape conditioning) = .ok () := accepted
  rw [threaded_run, if_neg (by simpa using planned), shapes, Action.ofExcept_ok, pure_bind]
  refine (goes_scale scheduler.initialDeviation latent).bind fun w' noisy scaled => ?_
  refine (goes_denoiseAll inhabited word guidance (hidden.of_grows scaled.grows) rows scaled.has
    (scaled.shape.trans shape) (ready.imp (fits_of_grows scaled.grows)) 0).imp ?_
  exact fun w'' ended rounds => scaled.trans rounds

end Sampling

namespace Trace

/-- A draft of the inputs of a loop, in which nothing is recorded yet. -/
def opening (A : Arithmetic) (latent conditioning : Shape) : Draft A where
  recording := declared latent conditioning
  ordered _ _ found := by cases found
  declared _ _ found := by cases found

/-- The program of a loop over timesteps: it takes latents and conditioning and gives latents, and
it calls the network once at each timestep, in order, each time for something that its result
needs. Lowering keeps these calls. -/
structure Unrolls (p : Program A) (latent conditioning : Shape) (timesteps : List A.Elem) :
    Prop where
  valid : p.Valid
  inputs : p.inputs = #[⟨"sample", latent⟩, ⟨"encoder_hidden_states", conditioning⟩]
  output : p.outputShape? = some latent
  visits : p.visits = timesteps
  needed : ∀ (k : Nat) (i : Instruction A), p.instructions[k]? = some i → i.op.isCall = true →
    p.Needs p.output (p.inputs.size + k)
  lowered : ∃ q rename, p.lower = .ok q ∧ q.callsMade = p.callsMade.map (·.renamed rename) ∧
    q.visits = timesteps

theorem unrolls_of_result {latent hidden : Shape} {timesteps : List A.Elem} {w : Draft A}
    {v latents : Value} (result : (opening A latent hidden).Result timesteps [latents] latent w v) :
    Unrolls (w.recording.toProgram v.id) latent hidden timesteps := by
  have needed : w.NeedsCalls v := result.needs latents (List.mem_singleton_self latents) nofun
  obtain ⟨q, rename, lowered, calls⟩ :=
    Program.exists_lower_calls ((Program.valid_iff_wellTyped _).mp result.has.valid) needed
  have visits : (w.recording.toProgram v.id).visits = timesteps := result.grows.visits_eq v.id 0
  exact {
    valid := result.has.valid
    inputs := result.grows.inputs_eq
    output := result.has.trans (congrArg some result.shape)
    visits
    needed
    lowered := ⟨q, rename, lowered, calls, (Program.visits_of_renamed calls).trans visits⟩ }

theorem batch_of_check {batch height width embedding : Nat} {shapes : InputShapes}
    (accepted : InputShapes.check batch height width embedding = .ok shapes) :
    0 < shapes.batch := by
  rcases Nat.eq_zero_or_pos batch with rfl | positive
  · cases accepted
  · unfold InputShapes.check at accepted
    dsimp only at accepted
    rw [if_neg positive.ne'] at accepted
    obtain ⟨_, -, accepted⟩ := Halt.bind_eq_ok_iff.mp accepted
    obtain ⟨_, -, accepted⟩ := Halt.bind_eq_ok_iff.mp accepted
    split at accepted
    · cases accepted
    · cases accepted
      exact positive

/-- Tracing a planned pass always succeeds, as long as the rows of the conditioning can be counted,
and unrolls the loop over its timesteps. -/
theorem sample_unrolls (counts : A.CountsAreNumbers) {id : SchedulerId} {config : ScheduleConfig A}
    {seed : UInt64} {steps : Nat} {scheduler : Scheduler A Value}
    (planned : Scheduler.planned id config seed steps = .ok scheduler)
    {batch height width embedding : Nat} {shapes : InputShapes}
    (accepted : InputShapes.check batch height width embedding = .ok shapes)
    (word : 2 * shapes.batch < Halt.wordLimit) (guidance : A.Elem) :
    ∃ p, (sample scheduler shapes guidance).program = .ok p ∧ p.calls = steps ∧
      Unrolls p shapes.latent [2 * shapes.batch, InputShapes.promptLength, shapes.embedding]
        scheduler.timesteps := by
  let conditioning := [2 * shapes.batch, InputShapes.promptLength, shapes.embedding]
  have rows : shapes.conditioning = .ok conditioning := by
    rw [InputShapes.conditioning, Halt.checked_eq_ok_iff.mpr ⟨word, rfl⟩]
    rfl
  obtain ⟨positive, length, ready⟩ := Scheduler.readyFor_of_planned counts
    ((Draft.tracing A shapes.latent).Fits (opening A shapes.latent conditioning)) planned
  have latent : (opening A shapes.latent conditioning).Has ⟨0, shapes.latent⟩ := rfl
  have hidden : (opening A shapes.latent conditioning).Has ⟨1, conditioning⟩ := rfl
  obtain ⟨⟨⟨v, completed⟩, left⟩, w, ran, result⟩ :=
    Sampling.goes_run (batch_of_check accepted) word guidance
      (List.length_pos_iff.mp (length ▸ positive)) hidden latent
      (Sampling.checkShapes_of_shapes word) rfl rfl ready
  have unrolls := unrolls_of_result result
  refine ⟨_, program_of_runOn rows ran unrolls.valid, ?_, unrolls⟩
  rw [← Program.length_visits, unrolls.visits, length]

/-- Two steps of the linear multistep method, on an image of one place. -/
theorem sample_unrolls_noiseless :
    ∃ (scheduler : Scheduler whole Value) (p : Program whole),
      Scheduler.planned .lmsDiscrete noiseless 0 2 = .ok scheduler ∧
      InputShapes.check 1 8 8 1 = .ok ⟨1, 8, 8, 1⟩ ∧
      (sample scheduler ⟨1, 8, 8, 1⟩ (2 : Int)).program = .ok p ∧ p.calls = 2 ∧
      Unrolls p [1, 4, 1, 1] [2, 77, 1] scheduler.timesteps := by
  have plans : (Scheduler.planned (τ := Value) .lmsDiscrete noiseless 0 2).toOption.isSome := by
    decide +kernel
  obtain ⟨scheduler, found⟩ := Option.isSome_iff_exists.mp plans
  have planned := Halt.toOption_eq_some_iff.mp found
  have accepted : InputShapes.check 1 8 8 1 = .ok ⟨1, 8, 8, 1⟩ := rfl
  obtain ⟨p, traced, calls, unrolls⟩ :=
    sample_unrolls whole_countsAreNumbers planned accepted (by decide) (2 : Int)
  exact ⟨scheduler, p, planned, accepted, traced, calls, unrolls⟩

end Trace

end Diffusion
