import Diffusion.Proofs.Program.LoweredPeak
import Diffusion.Proofs.Scheduler.Ready
import Diffusion.Proofs.Trace.Oblivious

/-!
What the result of a traced loop needs.

Every operation on the tracer reads all of its operands, so dependence is passed on from the latents
and the conditioning of a round to the latents that it ends with. Schedulers of every kind, in every
state, are covered, as long as the loop records a program at all. Main statements: `needs_inputs`,
by which the program of a traced loop needs all of its inputs, and `lower_peak`, by which lowering
it does not raise the peak of its memory.
-/

namespace Diffusion

open Backend (tracer)

variable {A : Arithmetic} {α : Type} {u : Nat}

namespace Recording

variable {r r' : Recording A} {v : Value}

/-- As far as the recording goes, the value needs another one. -/
def Reaches (r : Recording A) (u : Nat) (v : Value) : Prop := (r.toProgram v.id).Needs v.id u

theorem Reaches.of_grown (grown : ∃ new, r' = r.extended new) (reaches : r.Reaches u v) :
    r'.Reaches u v := by
  obtain ⟨new, rfl⟩ := grown
  exact needs_extended reaches

/-- What a call is answered with needs whatever one of its operands needs. -/
theorem reaches_of_make {call : Backend.Call A Value} {values : List Value}
    (made : (call.make (tracer A)).runOn r = (.ok values, r')) {x : Value}
    (operand : x ∈ call.operands) (reaches : r.Reaches u x) : ∀ v ∈ values, r'.Reaches u v := by
  obtain ⟨s, rfl, rfl⟩ := Backend.Call.of_make_tracer made
  intro v member
  obtain ⟨k, inside, rfl⟩ := List.mem_mapIdx.mp member
  rw [List.length_map] at inside
  let op := (call.map (·.id)).ops[k]
  have found : (r.extended ((call.map (·.id)).ops.map fun op => ⟨op, s⟩)).instructions[
      r.instructions.size + k]? = some ⟨op, s⟩ := by
    simp [extended, inside, op]
  have reads : x.id ∈ op.operands := by
    rw [Backend.Call.operands_of_mem_ops (List.getElem_mem inside), Backend.Call.operands_map]
    exact List.mem_map_of_mem operand
  exact .head ⟨_, _, found, Nat.add_assoc .., reads⟩ (needs_extended reaches)

/-- If the call succeeds it only appends, and this holds of what it returns. -/
def Leaves (r : Recording A) (x : Action (Recording A) α) (R : Recording A → α → Prop) : Prop :=
  ∀ a r', x.runOn r = (.ok a, r') → (∃ new, r' = r.extended new) ∧ R r' a

theorem Leaves.imp {x : Action (Recording A) α} {R S : Recording A → α → Prop}
    (leaves : r.Leaves x R) (weaker : ∀ r' a, R r' a → S r' a) : r.Leaves x S := by
  intro a r' ran
  obtain ⟨grown, holds⟩ := leaves a r' ran
  exact ⟨grown, weaker r' a holds⟩

theorem leaves_call (call : Backend.Call A Value) {x : Action (Recording A) α}
    (values : α → List Value) (calls : call.make (tracer A) = x >>= fun a => pure (values a)) :
    r.Leaves x fun r' a => ∀ operand ∈ call.operands, r.Reaches u operand →
      ∀ v ∈ values a, r'.Reaches u v := by
  intro a r' ran
  have made : (call.make (tracer A)).runOn r = (.ok (values a), r') := by
    rw [calls, Action.runOn_bind_ok ran, Action.runOn_pure]
  refine ⟨?_, fun operand member reaches => reaches_of_make made member reaches⟩
  obtain ⟨_, -, rfl⟩ := Backend.Call.of_make_tracer made
  exact ⟨_, rfl⟩

theorem leaves_single (call : Backend.Call A Value) {x : Action (Recording A) Value}
    (calls : call.make (tracer A) = x >>= fun v => pure [v]) :
    r.Leaves x fun r' v => ∀ operand ∈ call.operands, r.Reaches u operand → r'.Reaches u v :=
  (leaves_call call (fun v => [v]) calls).imp fun _ v passes operand member reaches =>
    passes operand member reaches v (List.mem_singleton_self v)

end Recording

open Recording

/-- Calls that succeed append to the recording, and operations pass on what their operands need.
Nothing is said about calls that fail. -/
def reaching (A : Arithmetic) (u : Nat) : Contract (tracer A) where
  World := Recording A
  Leads r r' := ∃ new, r' = r.extended new
  Fits _ _ := True
  Fed r v := r.Reaches u v
  Meets r x R := r.Leaves x R
  fits_of_leads _ _ := trivial
  fed_of_leads grown reaches := reaches.of_grown grown
  meets_pure holds := by
    rintro _ _ ⟨⟩
    exact ⟨⟨[], by simp⟩, holds⟩
  meets_bind first next := by
    intro b r'' ran
    obtain ⟨a, r', answered, continued⟩ := Action.of_bind_ok ran
    obtain ⟨⟨new₁, grown₁⟩, holds⟩ := first a r' answered
    obtain ⟨⟨new₂, grown₂⟩, result⟩ := next r' a ⟨new₁, grown₁⟩ holds b r'' continued
    exact ⟨⟨new₁ ++ new₂, by rw [grown₂, grown₁, extended_append]⟩, result⟩
  meets_scale factor _ := (leaves_single (.scale _ factor) rfl).imp fun _ _ passes =>
    ⟨trivial, passes _ List.mem_cons_self⟩
  meets_add _ _ := (leaves_single (.add _ _) rfl).imp fun _ _ passes =>
    ⟨trivial, fun fed => fed.elim (passes _ List.mem_cons_self)
      (passes _ (List.mem_cons_of_mem _ List.mem_cons_self))⟩
  meets_sub _ _ := (leaves_single (.sub _ _) rfl).imp fun _ _ passes =>
    ⟨trivial, fun fed => fed.elim (passes _ List.mem_cons_self)
      (passes _ (List.mem_cons_of_mem _ List.mem_cons_self))⟩
  meets_noise seed _ := (leaves_single (u := u) (.noise _ seed) rfl).imp fun _ _ _ => trivial

theorem reaching_forgiving : (reaching A u).Forgiving := by
  rintro α r h R _ _ ⟨⟩

theorem drawn_single {r : Recording A} (call : Backend.Call A Value)
    {x : Action (Recording A) Value} (calls : call.make (tracer A) = x >>= fun v => pure [v]) :
    (reaching A u).Meets r x ((reaching A u).Drawn r call.operands) :=
  (leaves_single call calls).imp fun _ _ passes => ⟨trivial, passes⟩

namespace Sampling

variable {r : Recording A} {scheduler : Scheduler A Value} {conditioning latents : Value}
  {timestep : A.Elem} {guidance : A.Elem}

/-- The latents after a round need what the prediction of the network needs. -/
theorem drawn_conclude (prediction : Value) :
    (reaching A u).Meets r (conclude (tracer A) guidance timestep latents prediction scheduler)
      fun r' stepped => (reaching A u).Drawn r [prediction] r' stepped.1 := by
  let C := reaching A u
  have halves : C.Meets r ((tracer A).split prediction) fun r' halves =>
      C.Drawn r [prediction] r' halves.1 :=
    (leaves_call (.split prediction) (fun halves => [halves.1, halves.2]) rfl).imp
      fun _ halves passes => ⟨trivial, fun source member reaches =>
        passes source member reaches halves.1 List.mem_cons_self⟩
  refine C.meets_bind halves fun r₁ ⟨unconditional, conditional⟩ leads₁ half => ?_
  refine C.meets_bind (C.drawn_guide guidance trivial trivial) fun r₂ guided leads₂ combined => ?_
  refine C.meets_imp (C.drawn_step reaching_forgiving (fun _ _ => trivial) scheduler guided latents
    timestep) fun r₃ stepped _ last => ?_
  have guides : C.Drawn r₁ [unconditional] r₂ guided := combined.mono (by simp)
  exact half.trans leads₁ (guides.trans leads₂ last)

/-- The latents after a round need what the latents before and the conditioning need. -/
theorem drawn_denoise :
    (reaching A u).Meets r
      ((denoise (tracer A) guidance conditioning latents timestep).threaded scheduler)
      fun r' stepped => (reaching A u).Drawn r [latents, conditioning] r' stepped.1 := by
  let C := reaching A u
  rw [threaded_round]
  refine C.meets_bind (drawn_single (.concat latents latents) rfl) fun r₁ doubled leads₁ laid => ?_
  refine C.meets_bind (C.drawn_scaleInput reaching_forgiving (fun _ _ => trivial) scheduler
    timestep) fun r₂ ⟨input, placed⟩ leads₂ scaled => ?_
  refine C.meets_bind (drawn_single (.predict input timestep conditioning) rfl)
    fun r₃ prediction leads₃ called => ?_
  refine C.meets_imp (drawn_conclude prediction) fun r₄ stepped _ last => ?_
  have doubles : C.Drawn r [latents] r₁ doubled := laid.mono (by simp [Backend.Call.operands])
  exact doubles.trans leads₁ (scaled.trans leads₂ (called.trans leads₃ last))

theorem drawn_denoiseAll {timesteps : List A.Elem} (completed : Nat) :
    (reaching A u).Meets r (((denoiseAll (tracer A) guidance conditioning timesteps
      latents).threaded completed).threaded scheduler)
      fun r' ended => (reaching A u).Drawn r [latents] r' ended.1.1 := by
  let C := reaching A u
  induction timesteps generalizing r latents scheduler completed with
  | nil => exact C.meets_pure ⟨trivial, List.forall_mem_singleton.mpr id⟩
  | cons timestep rest ih =>
      rw [threaded_denoiseAll]
      refine C.meets_bind drawn_denoise fun r₁ ⟨next, left⟩ leads round => ?_
      refine C.meets_imp (ih (completed + 1)) fun r₂ ended _ later => ?_
      have passed : C.Drawn r [latents] r₁ next := round.mono (by simp)
      exact passed.trans leads later

/-- A loop that is traced at all goes round at least once, so what it ends with needs both of its
inputs. -/
theorem drawn_run (completed : Nat) :
    (reaching A u).Meets r
      (((run (tracer A) guidance latents conditioning).threaded completed).threaded scheduler)
      fun r' ended => (reaching A u).Drawn r [latents, conditioning] r' ended.1.1 := by
  let C := reaching A u
  rw [threaded_run]
  cases scheduler.timesteps with
  | nil => exact reaching_forgiving r _ _
  | cons timestep rest =>
      rw [if_neg (by simp)]
      refine Contract.Bears.bind (.inl reaching_forgiving) fun _ _ => ?_
      refine C.meets_bind (C.drawn_scale _ trivial) fun r₁ noisy leads₁ scaled => ?_
      rw [threaded_denoiseAll]
      refine C.meets_bind drawn_denoise fun r₂ ⟨next, left⟩ leads₂ round => ?_
      refine C.meets_imp (drawn_denoiseAll (completed + 1)) fun r₃ ended _ later => ?_
      exact scaled.trans leads₁ (round.trans leads₂ later)

end Sampling

namespace Trace

variable {scheduler : Scheduler A Value} {shapes : InputShapes} {guidance : A.Elem} {p : Program A}

/-- The program of a traced loop is checked, and its result needs both inputs. -/
theorem needs_inputs (traced : (sample scheduler shapes guidance).program = .ok p) :
    p.Valid ∧ ∀ v < p.inputs.size, p.Needs p.output v := by
  obtain ⟨conditioning, rows⟩ := conditioning_of_traced traced
  obtain ⟨v, r, completed, left, ran, rfl, valid⟩ := program_eq_ok rows traced
  have drawn (u : Nat) := Sampling.drawn_run (u := u) 0 _ _ ran
  refine ⟨valid, fun input within => ?_⟩
  obtain ⟨⟨new, grown⟩, -⟩ := drawn 0
  have two : input < 2 := by
    rwa [grown] at within
  obtain rfl | rfl : input = 0 ∨ input = 1 := by omega
  · exact (drawn 0).2.fed ⟨0, shapes.latent⟩ (by simp) .refl
  · exact (drawn 1).2.fed ⟨1, conditioning⟩ (by simp) .refl

end Trace

namespace Program

/-- Lowering a checked program that needs all of its inputs does not raise its peak of live bytes,
and both peaks can be counted in words if the sizes of all values together can. The program of a
traced loop needs all of its inputs: what fits under a ceiling still does once it is lowered. -/
theorem lower_peak (A : Arithmetic) :
    (∀ p : Program A, p.Valid → (∀ v < p.inputs.size, p.Needs p.output v) →
      ∃ q, p.lower = .ok q ∧ q.peakBytes ≤ p.peakBytes ∧
        ∀ total, p.totalValueBytes = .ok total → ∃ peak lowered,
          p.peakLiveBytes = .ok peak ∧ q.peakLiveBytes = .ok lowered ∧ lowered ≤ peak) ∧
    ∀ (scheduler : Scheduler A Value) (shapes : InputShapes) (guidance : A.Elem) (p : Program A),
      (Trace.sample scheduler shapes guidance).program = .ok p →
        p.Valid ∧ (∀ v < p.inputs.size, p.Needs p.output v) ∧
          ∃ q, p.lower = .ok q ∧ ∀ ceiling peak, p.peakLiveBytes = .ok peak → peak ≤ ceiling →
            ∃ lowered, q.peakLiveBytes = .ok lowered ∧ lowered ≤ ceiling := by
  constructor
  · intro p valid needed
    obtain ⟨q, lower, le, counts, counted⟩ := exists_lower_peak valid needed
    refine ⟨q, lower, le, fun total sized => ?_⟩
    obtain ⟨peak, first⟩ := counts total sized
    obtain ⟨lowered, smaller, second⟩ := counted peak first
    exact ⟨peak, lowered, first, second, smaller⟩
  · intro scheduler shapes guidance p traced
    obtain ⟨valid, needed⟩ := Trace.needs_inputs traced
    obtain ⟨q, lower, -, -, counted⟩ := exists_lower_peak valid needed
    refine ⟨valid, needed, q, lower, fun ceiling peak first fits => ?_⟩
    obtain ⟨lowered, smaller, second⟩ := counted peak first
    exact ⟨lowered, second, smaller.trans fits⟩

/-- Two steps of the linear multistep method, whose values have 1288 bytes in all and at most 712 at
once. -/
theorem lower_peak_noiseless :
    ∃ (scheduler : Scheduler whole Value) (p q : Program whole),
      Scheduler.planned .lmsDiscrete noiseless 0 2 = .ok scheduler ∧
      (Trace.sample scheduler ⟨1, 8, 8, 1⟩ (2 : Int)).program = .ok p ∧
      p.totalValueBytes = .ok 1288 ∧ p.peakLiveBytes = .ok 712 ∧ p.lower = .ok q ∧
      q.peakBytes ≤ p.peakBytes ∧ ∃ lowered ≤ 712, q.peakLiveBytes = .ok lowered := by
  have computed : (do
      let scheduler ← Scheduler.planned (τ := Value) .lmsDiscrete noiseless 0 2
      let p ← (Trace.sample scheduler ⟨1, 8, 8, 1⟩ (2 : Int)).program
      let total ← p.totalValueBytes
      let peak ← p.peakLiveBytes
      return (total, peak) : Except Halt (Nat × Nat)).toOption = some (1288, 712) := by
    decide +kernel
  obtain ⟨scheduler, planned, rest⟩ :=
    Halt.bind_eq_ok_iff.mp (Halt.toOption_eq_some_iff.mp computed)
  obtain ⟨p, traced, rest⟩ := Halt.bind_eq_ok_iff.mp rest
  obtain ⟨total, sized, rest⟩ := Halt.bind_eq_ok_iff.mp rest
  obtain ⟨peak, counted, same⟩ := Halt.bind_eq_ok_iff.mp rest
  cases same
  obtain ⟨bounded, traces⟩ := lower_peak whole
  obtain ⟨valid, needed, q', lower', fits⟩ := traces scheduler ⟨1, 8, 8, 1⟩ (2 : Int) p traced
  obtain ⟨q, lower, le, -⟩ := bounded p valid needed
  cases lower'.symm.trans lower
  obtain ⟨lowered, second, smaller⟩ := fits 712 712 counted le_rfl
  exact ⟨scheduler, p, q', planned, traced, sized, counted, lower, le, lowered, smaller, second⟩

end Program

end Diffusion
