import Diffusion.Proofs.Trace.Replay

/-!
What a traced loop records of its guidance.

Calls on the recording backend only append, so what one timestep records is in the program at the
end. Main statement: `exists_scale_guidance`, by which the program of every traced loop scales by
the guidance.
-/

namespace Diffusion

variable {A : Arithmetic}

/-- The recording backend beside itself: all that counts is that its calls append. -/
def appending (A : Arithmetic) : Coupling (Backend.tracer A) (Backend.tracer A) where
  World := Unit
  Leads _ _ := True
  Related _ := Eq
  Couples _ x _ R := Recording.Appends x (R ())
  related_of_leads _ same := same
  couples_pure related := Recording.appends_pure related
  couples_halt h := Recording.appends_halt h
  couples_bind first next :=
    Recording.appends_bind first fun a b related => next () a b trivial related
  couples_scale _ _ := Recording.appends_record (Op.exact_scale _ _) _ fun v => ⟨v, rfl⟩
  couples_add _ _ := Recording.appends_alike (fun v => ⟨v, rfl⟩) _ _ _ (Op.exact_of_ne (by simp))
  couples_sub _ _ := Recording.appends_alike (fun v => ⟨v, rfl⟩) _ _ _ (Op.exact_of_ne (by simp))
  couples_concat _ _ := Recording.appends_concat (fun v => ⟨v, rfl⟩) _ _
  couples_split _ := Recording.appends_split _ fun halves => ⟨halves, rfl, rfl⟩
  couples_noise _ _ := Recording.appends_record (Op.exact_of_ne (by simp)) _ fun v => ⟨v, rfl⟩
  couples_predict _ _ _ := Recording.appends_call (fun v => ⟨v, rfl⟩) _ _ _

theorem relatedSchedulers_self (scheduler : Scheduler A Value) :
    (appending A).RelatedSchedulers () scheduler scheduler := by
  have all : ∀ vs : List Value, List.Forall₂ ((appending A).Related ()) vs vs :=
    fun vs => List.forall₂_same.mpr fun _ _ => rfl
  cases scheduler with
  | pndm s => exact .pndm (all s.outputs)
  | ddim s => exact .ddim s
  | ddpm s => exact .ddpm s
  | euler s => exact .euler s
  | eulerAncestral s => exact .eulerAncestral s
  | linearMultistep s => exact .linearMultistep (all s.derivatives)

namespace Recording

variable {α β : Type}

theorem Appends.mem {x : Action (Recording A) α} {R : α → β → Prop} (appends : Appends x R)
    {r r' : Recording A} {a : α} (ran : x.runOn r = (.ok a, r')) {i : Instruction A}
    (member : i ∈ r.instructions) : i ∈ r'.instructions := by
  obtain ⟨⟨new, rfl, -⟩, -⟩ := appends r a r' ran
  exact Array.mem_append_left _ member

theorem Appends.exact {x : Action (Recording A) α} {R : α → β → Prop} (appends : Appends x R)
    {r r' : Recording A} {a : α} (ran : x.runOn r = (.ok a, r'))
    (exact : ∀ i ∈ r.instructions, i.op.Exact) : ∀ i ∈ r'.instructions, i.op.Exact := by
  obtain ⟨⟨new, rfl, exactToo⟩, -⟩ := appends r a r' ran
  intro i member
  rcases Array.mem_append.mp member with old | new
  · exact exact i old
  · exact exactToo i (List.mem_toArray.mp new)

end Recording

namespace Trace

/-- Whether a recording scales something by a factor. -/
def Scales (factor : A.Wide) (r : Recording A) : Prop :=
  ∃ i ∈ r.instructions, ∃ v, i.op = .scale v factor

theorem Scales.of_appends {α β : Type} {x : Action (Recording A) α} {R : α → β → Prop}
    {factor : A.Wide} {r r' : Recording A} {a : α} (scales : Scales factor r)
    (ran : x.runOn r = (.ok a, r')) (appends : Recording.Appends x R) : Scales factor r' := by
  obtain ⟨i, member, scaling⟩ := scales
  exact ⟨i, appends.mem ran member, scaling⟩

variable {guidance : A.Elem} {r r' : Recording A}

theorem scales_of_guide {unconditional conditional v : Value}
    (ran : ((Backend.tracer A).guide unconditional conditional guidance).runOn r = (.ok v, r')) :
    Scales (A.widen guidance) r' := by
  obtain ⟨delta, subtracted, -, ran⟩ := Action.of_bind_ok ran
  obtain ⟨scaled, between, recorded, added⟩ := Action.of_bind_ok ran
  have recorded : (Recording.record (.scale delta.id (A.widen guidance)) delta.shape).runOn
      subtracted = (.ok scaled, between) := recorded
  rw [Recording.runOn_record] at recorded
  cases recorded
  have scales : Scales (A.widen guidance)
      (subtracted.extended [⟨.scale delta.id (A.widen guidance), delta.shape⟩]) :=
    ⟨⟨.scale delta.id (A.widen guidance), delta.shape⟩, by simp [Recording.extended], delta.id, rfl⟩
  exact scales.of_appends added ((appending A).couples_add (w := ()) rfl rfl)

/-- A timestep that succeeds scales by the guidance, whatever its scheduler does besides. -/
theorem scales_of_denoise {conditioning latents : Value} {timestep : A.Elem}
    {scheduler : Scheduler A Value} {answer : Value × Scheduler A Value}
    (ran : ((Sampling.denoise (Backend.tracer A) guidance conditioning latents timestep).threaded
      scheduler).runOn r = (.ok answer, r')) : Scales (A.widen guidance) r' := by
  rw [Sampling.threaded_denoise] at ran
  obtain ⟨⟨output, after⟩, between, predicted, stepped⟩ := Action.of_bind_ok ran
  rw [Sampling.threaded_predictGuided] at predicted
  obtain ⟨doubled, _, -, predicted⟩ := Action.of_bind_ok predicted
  obtain ⟨⟨input, scaled⟩, _, -, predicted⟩ := Action.of_bind_ok predicted
  obtain ⟨prediction, _, -, predicted⟩ := Action.of_bind_ok predicted
  obtain ⟨⟨unconditional, conditional⟩, _, -, predicted⟩ := Action.of_bind_ok predicted
  obtain ⟨guided, _, combined, ⟨⟩⟩ := Action.of_bind_ok predicted
  exact (scales_of_guide combined).of_appends stepped
    ((appending A).couples_step timestep (relatedSchedulers_self after) rfl rfl)

/-- The program of a traced loop scales by the guidance: there is at least one timestep, and no
later one takes back what the first recorded. -/
theorem exists_scale_guidance {scheduler : Scheduler A Value} {shapes : InputShapes} {p : Program A}
    (traced : (sample scheduler shapes guidance).program = .ok p) :
    ∃ i ∈ p.instructions, ∃ v, i.op = .scale v (A.widen guidance) := by
  cases rows : shapes.conditioning with
  | error h =>
      rw [sample, rows] at traced
      cases traced
  | ok conditioning =>
      obtain ⟨v, r, completed, left, ran, rfl, -⟩ := program_eq_ok rows traced
      rw [Sampling.threaded_run] at ran
      split at ran
      · cases ran
      rename_i planned
      obtain ⟨_, _, -, ran⟩ := Action.of_bind_ok ran
      obtain ⟨noisy, _, -, ran⟩ := Action.of_bind_ok ran
      cases timesteps : scheduler.timesteps with
      | nil => simp [timesteps] at planned
      | cons timestep rest =>
          rw [timesteps, Sampling.threaded_denoiseAll] at ran
          obtain ⟨⟨latents, after⟩, between, denoised, ran⟩ := Action.of_bind_ok ran
          exact (scales_of_denoise denoised).of_appends ran
            ((appending A).couples_denoiseAll guidance rest 1 (relatedSchedulers_self after)
              rfl rfl)

/-- A traced loop scales by elements only. -/
theorem exact_of_program {scheduler : Scheduler A Value} {shapes : InputShapes} {p : Program A}
    (traced : (sample scheduler shapes guidance).program = .ok p) :
    ∀ i ∈ p.instructions, i.op.Exact := by
  cases rows : shapes.conditioning with
  | error h =>
      rw [sample, rows] at traced
      cases traced
  | ok conditioning =>
      obtain ⟨v, r, completed, left, ran, rfl, -⟩ := program_eq_ok rows traced
      exact Recording.Appends.exact ((appending A).couples_run (w := ()) guidance 0
        (relatedSchedulers_self scheduler) rfl rfl rfl rfl) ran nofun

end Trace

end Diffusion
