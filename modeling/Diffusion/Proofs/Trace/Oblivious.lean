import Diffusion.Proofs.Schedule.Leading
import Diffusion.Proofs.Trace.Draws
import Diffusion.Proofs.Trace.Unrolled

/-!
What a traced program does not depend on.

Main statement: `sample_oblivious`. The shapes of the inputs decide whether there is a program and
which shapes it declares, and nothing else; the seed of a deterministic scheduler decides nothing.
-/

namespace Diffusion

variable {A : Arithmetic}

namespace Program

/-- The operations without the shapes of their results. -/
def ops (p : Program A) : Array (Op A) := p.instructions.map (·.op)

/-- The seed of the noise that is drawn at a position, if any is. -/
def noiseSeed? (p : Program A) (k : Nat) : Option UInt64 := p.ops[k]?.bind Op.noiseSeed?

/-- The seeds of all noise, in the order in which it is drawn. -/
def noiseSeeds (p : Program A) : List UInt64 := p.ops.toList.filterMap Op.noiseSeed?

theorem noiseSeed?_eq_none {p : Program A} (quiet : p.noiseSeeds = []) (k : Nat) :
    p.noiseSeed? k = none := by
  unfold noiseSeed?
  cases found : p.ops[k]? with
  | none => rfl
  | some op =>
      have member : op ∈ p.ops.toList :=
        Array.mem_toList_iff.mpr (Array.mem_of_getElem? found)
      exact List.filterMap_eq_nil_iff.mp quiet op member

/-- Programs of the same operations, with the same result, on inputs of the same names. Their shapes
may differ, and the noise of the second is drawn from the seeds that follow. -/
structure Alike (f : UInt64 → UInt64) (p q : Program A) : Prop where
  names : q.inputs.map (·.name) = p.inputs.map (·.name)
  ops : q.ops = p.ops.map (Op.reseed f)
  output : q.output = p.output

end Program

namespace Trace

variable {id : SchedulerId} {config : ScheduleConfig A} {seed seed' : UInt64} {steps : Nat}
  {scheduler : Scheduler A Value} {shapes shapes' : InputShapes} {guidance : A.Elem}
  {p q : Program A}

theorem conditioning_of_traced (traced : (sample scheduler shapes guidance).program = .ok p) :
    ∃ conditioning, shapes.conditioning = .ok conditioning := by
  cases rows : shapes.conditioning with
  | error h =>
      rw [sample, rows] at traced
      cases traced
  | ok conditioning => exact ⟨conditioning, rfl⟩

/-- Two loops of one scheduler are traced alike, whatever the shapes. If the second one has another
seed, it draws its noise from the seeds that follow. -/
theorem alike_of_traced {f : UInt64 → UInt64}
    (shift : ∀ i, stepSeed seed' i = f (stepSeed seed i))
    (own : scheduler.withSeed seed = scheduler)
    (traced : (sample scheduler shapes guidance).program = .ok p)
    (traced' : (sample (scheduler.withSeed seed') shapes' guidance).program = .ok q) :
    p.Alike f q := by
  obtain ⟨conditioning, rows⟩ := conditioning_of_traced traced
  obtain ⟨conditioning', rows'⟩ := conditioning_of_traced traced'
  obtain ⟨v, r, completed, left, ran, rfl, -⟩ := program_eq_ok rows traced
  obtain ⟨v', r', completed', left', ran', rfl, -⟩ := program_eq_ok rows' traced'
  rw [(reseeds_run shift scheduler _ _ guidance 0).other, own] at ran'
  obtain ⟨⟨⟨_, _⟩, _⟩, _, ran', returned⟩ := Action.of_bind_ok ran'
  cases returned
  have start : Recording.Alike f (declared (A := A) shapes.latent conditioning)
      (declared shapes'.latent conditioning') := by
    constructor <;> simp [declared]
  have sameLatents : (Value.mk 0 shapes.latent).id = (Value.mk 0 shapes'.latent).id := rfl
  have sameConditioning : (Value.mk 1 conditioning).id = (Value.mk 1 conditioning').id := rfl
  obtain ⟨alike, same, -⟩ :=
    abreast_run guidance scheduler sameLatents sameConditioning _ _ _ _ _ _ start ran ran'
  refine ⟨alike.names, ?_, same.symm⟩
  rw [Program.ops, Program.ops, Array.map_map]
  exact alike.ops

/-- There is a program exactly if the rows of the conditioning can be counted in a word. -/
theorem exists_program_iff (counts : A.CountsAreNumbers)
    (planned : Scheduler.planned id config seed steps = .ok scheduler)
    {batch height width embedding : Nat}
    (accepted : InputShapes.check batch height width embedding = .ok shapes) (guidance : A.Elem) :
    (∃ p, (sample scheduler shapes guidance).program = .ok p) ↔
      2 * shapes.batch < Halt.wordLimit := by
  constructor
  · intro ⟨p, traced⟩
    obtain ⟨conditioning, rows⟩ := conditioning_of_traced traced
    obtain ⟨rows, counted, -⟩ := Halt.bind_eq_ok_iff.mp rows
    exact (Halt.checked_eq_ok_iff.mp counted).1
  · intro word
    obtain ⟨p, traced, -⟩ := sample_unrolls counts planned accepted word guidance
    exact ⟨p, traced⟩

theorem numbered_of_planned (counts : A.CountsAreNumbers)
    (planned : Scheduler.planned id config seed steps = .ok scheduler) :
    scheduler.id = id ∧ scheduler.Numbered seed 0 scheduler.timesteps := by
  obtain ⟨schedule, scheduled, ran⟩ := Scheduler.planned_eq_ok_iff.mp planned
  have plans := Scheduler.plans_of_ok ran
  obtain ⟨positive, length, start⟩ := Scheduler.length_of_plans plans
  have nonempty : scheduler.timesteps ≠ [] := List.length_pos_iff.mp (length ▸ positive)
  cases id with
  | pndm | ddim | eulerDiscrete | lmsDiscrete =>
      cases plans
      exact ⟨rfl, trivial⟩
  | ddpm =>
      cases plans
      exact ⟨rfl, rfl, rfl⟩
  | eulerAncestralDiscrete =>
      cases plans with
      | eulerAncestral track =>
          exact ⟨rfl, rfl, (SigmaTrack.sound_of_plan counts track).ready_pass nonempty start⟩

/-- The noise of a traced loop is drawn from the seeds of its steps, at most once in each. -/
theorem seedsOf_traced (counts : A.CountsAreNumbers)
    (planned : Scheduler.planned id config seed steps = .ok scheduler)
    (traced : (sample scheduler shapes guidance).program = .ok p) :
    SeedsOf id seed (List.range steps) p.noiseSeeds := by
  obtain ⟨conditioning, rows⟩ := conditioning_of_traced traced
  obtain ⟨same, numbered⟩ := numbered_of_planned counts planned
  obtain ⟨-, length, -⟩ := Scheduler.readyFor_of_planned counts (fun _ => True) planned
  obtain ⟨v, r, completed, left, ran, rfl, -⟩ := program_eq_ok rows traced
  have draws : Recording.Draws (((Sampling.run (.tracer A) guidance ⟨0, shapes.latent⟩
      ⟨1, conditioning⟩).threaded 0).threaded scheduler)
      fun _ seeds =>
        SeedsOf scheduler.id seed (List.range' 0 scheduler.timesteps.length) seeds := by
    rw [Sampling.threaded_run]
    split
    · exact (Recording.quiet_fail _).imp fun _ _ nothing => nothing ▸ .nil
    · apply Recording.draws_ofExcept_bind
      intro _ _
      apply Recording.Draws.after_quiet (quiet_scale _)
      intro noisy
      exact draws_denoiseAll numbered 0
  obtain ⟨seeds, appended, drawn⟩ := draws _ _ _ ran
  have recorded : (r.toProgram v.id).noiseSeeds = r.noiseSeeds := by
    simp [Program.noiseSeeds, Program.ops, Recording.noiseSeeds, Recording.toProgram,
      List.filterMap_map]
  rw [recorded, appended, List.range_eq_range', ← length, ← same]
  exact drawn

/-- Tracing is oblivious of shapes, and of the seed if the scheduler is deterministic: two programs
of one scheduler differ in their shapes alone, and a deterministic scheduler draws no noise and has
the same program for every seed. -/
theorem sample_oblivious (counts : A.CountsAreNumbers)
    (planned : Scheduler.planned id config seed steps = .ok scheduler) (guidance : A.Elem) :
    (∀ {batch height width embedding : Nat} {shapes : InputShapes},
      InputShapes.check batch height width embedding = .ok shapes →
      ((∃ p, (sample scheduler shapes guidance).program = .ok p) ↔
        2 * shapes.batch < Halt.wordLimit)) ∧
    (∀ {shapes shapes' : InputShapes} {p q : Program A},
      (sample scheduler shapes guidance).program = .ok p →
      (sample scheduler shapes' guidance).program = .ok q →
      q.ops = p.ops ∧ q.output = p.output ∧
        q.inputs.map (·.name) = p.inputs.map (·.name)) ∧
    (id.isStochastic = false → ∀ {shapes : InputShapes} {p : Program A},
      (sample scheduler shapes guidance).program = .ok p →
      (∀ k, p.noiseSeed? k = none) ∧
      ∀ seed', ∃ scheduler', Scheduler.planned id config seed' steps = .ok scheduler' ∧
        (sample scheduler' shapes guidance).program = .ok p) := by
  refine ⟨fun accepted => exists_program_iff counts planned accepted guidance, ?_, ?_⟩
  · intro shapes shapes' p q traced traced'
    have own := Scheduler.withSeed_of_planned planned
    have alike := alike_of_traced (f := fun seed => seed) (fun _ => rfl) own traced
      (own.symm ▸ traced')
    refine ⟨?_, alike.output, alike.names⟩
    rw [alike.ops]
    exact Array.map_id'' Op.reseed_id _
  · intro deterministic shapes p traced
    have drawn := seedsOf_traced counts planned traced
    refine ⟨Program.noiseSeed?_eq_none (drawn.deterministic deterministic), ?_⟩
    intro seed'
    refine ⟨scheduler, ?_, traced⟩
    rw [← planned]
    cases id with
    | pndm | ddim | eulerDiscrete | lmsDiscrete => rfl
    | ddpm | eulerAncestralDiscrete => cases deterministic

/-- Two steps of the linear multistep method, on one image of one place and on two of two. -/
theorem sample_oblivious_noiseless :
    ∃ (scheduler : Scheduler whole Value) (p q : Program whole),
      Scheduler.planned .lmsDiscrete noiseless 0 2 = .ok scheduler ∧
      InputShapes.check 1 8 8 1 = .ok ⟨1, 8, 8, 1⟩ ∧
      InputShapes.check 2 16 8 3 = .ok ⟨2, 16, 8, 3⟩ ∧
      (sample scheduler ⟨1, 8, 8, 1⟩ (2 : Int)).program = .ok p ∧
      (sample scheduler ⟨2, 16, 8, 3⟩ (2 : Int)).program = .ok q ∧
      q.ops = p.ops ∧ q.output = p.output ∧ p.noiseSeed? 0 = none ∧
      ∃ scheduler', Scheduler.planned .lmsDiscrete noiseless 7 2 = .ok scheduler' ∧
        (sample scheduler' ⟨1, 8, 8, 1⟩ (2 : Int)).program = .ok p := by
  have plans : (Scheduler.planned (τ := Value) .lmsDiscrete noiseless 0 2).toOption.isSome := by
    decide +kernel
  obtain ⟨scheduler, found⟩ := Option.isSome_iff_exists.mp plans
  have planned := Halt.toOption_eq_some_iff.mp found
  have accepted : InputShapes.check 1 8 8 1 = .ok ⟨1, 8, 8, 1⟩ := rfl
  have accepted' : InputShapes.check 2 16 8 3 = .ok ⟨2, 16, 8, 3⟩ := rfl
  obtain ⟨exist, agree, deterministic⟩ :=
    sample_oblivious whole_countsAreNumbers planned (2 : Int)
  obtain ⟨p, traced⟩ := (exist accepted).mpr (by decide)
  obtain ⟨q, traced'⟩ := (exist accepted').mpr (by decide)
  obtain ⟨ops, output, -⟩ := agree traced traced'
  obtain ⟨quiet, others⟩ := deterministic rfl traced
  exact ⟨scheduler, p, q, planned, accepted, accepted', traced, traced', ops, output, quiet 0,
    others 7⟩

end Trace

end Diffusion
