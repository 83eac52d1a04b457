import Diffusion.Proofs.Arithmetic.Whole
import Diffusion.Proofs.Sampling.Coupled
import Diffusion.Proofs.Trace.Shadow
import Diffusion.Trace

/-!
Replaying a traced loop.

Main statement: `execute_traced`, by which the program of a loop does what the loop itself does:
with the same answer or the same error, and with the same calls of the network on the way.
-/

namespace Diffusion.Trace

variable {A : Arithmetic} {ν : Type}

def declared (latent conditioning : Shape) : Recording A where
  inputs := #[⟨inputNames.1, latent⟩, ⟨inputNames.2, conditioning⟩]
  instructions := #[]

theorem program_eq (scheduler : Scheduler A Value) {shapes : InputShapes} (guidance : A.Elem)
    {conditioning : Shape} (rows : shapes.conditioning = .ok conditioning) :
    (sample scheduler shapes guidance).program =
      let ran := Sampling.outcome (Backend.tracer A) guidance ⟨0, shapes.latent⟩
        ⟨1, conditioning⟩ (declared shapes.latent conditioning) scheduler
      ran.answer >>= ran.backend.finish := by
  unfold sample
  rw [rows]
  rfl

/-- The program of a traced loop is what the loop recorded, with its last latents as the result, and
it was checked. -/
theorem program_eq_ok {scheduler : Scheduler A Value} {shapes : InputShapes} {guidance : A.Elem}
    {conditioning : Shape} (rows : shapes.conditioning = .ok conditioning) {p : Program A}
    (traced : (sample scheduler shapes guidance).program = .ok p) :
    ∃ v r completed left,
      (((Sampling.run (Backend.tracer A) guidance ⟨0, shapes.latent⟩ ⟨1, conditioning⟩).threaded
        0).threaded scheduler).runOn (declared shapes.latent conditioning) =
          (.ok ((v, completed), left), r) ∧ p = r.toProgram v.id ∧ p.Valid := by
  rw [program_eq scheduler guidance rows] at traced
  obtain ⟨v, answered, finished⟩ := Halt.bind_eq_ok_iff.mp traced
  obtain ⟨answer, backend⟩ := Sampling.outcome_eq (Backend.tracer A) guidance ⟨0, shapes.latent⟩
    ⟨1, conditioning⟩ (declared shapes.latent conditioning) scheduler
  rw [answered] at answer
  rw [backend] at finished
  rcases ran : (((Sampling.run (Backend.tracer A) guidance ⟨0, shapes.latent⟩
      ⟨1, conditioning⟩).threaded 0).threaded scheduler).runOn
        (declared shapes.latent conditioning) with ⟨h | ⟨⟨v', completed⟩, left⟩, r⟩
  · rw [ran] at answer
    cases answer
  · rw [ran] at answer finished
    cases answer
    obtain ⟨_, checked, same⟩ := Halt.bind_eq_ok_iff.mp finished
    cases same
    exact ⟨v', r, completed, left, rfl, rfl, Halt.mapError_eq_ok_iff.mp checked⟩

/-- If the loop records a checked program, that is the program traced. -/
theorem program_of_runOn {scheduler left : Scheduler A Value} {shapes : InputShapes}
    {guidance : A.Elem} {conditioning : Shape} (rows : shapes.conditioning = .ok conditioning)
    {v : Value} {completed : Nat} {r : Recording A}
    (ran : (((Sampling.run (Backend.tracer A) guidance ⟨0, shapes.latent⟩
      ⟨1, conditioning⟩).threaded 0).threaded scheduler).runOn
        (declared shapes.latent conditioning) = (.ok ((v, completed), left), r))
    (valid : (r.toProgram v.id).Valid) :
    (sample scheduler shapes guidance).program = .ok (r.toProgram v.id) := by
  obtain ⟨answer, backend⟩ := Sampling.outcome_eq (Backend.tracer A) guidance ⟨0, shapes.latent⟩
    ⟨1, conditioning⟩ (declared shapes.latent conditioning) scheduler
  rw [ran] at answer backend
  rw [program_eq scheduler guidance rows]
  dsimp only
  rw [answer, backend]
  have checked : (r.toProgram v.id).validate = .ok () := valid
  change r.finish v = _
  rw [Recording.finish, checked]
  rfl

theorem checkInputs_declared {latents conditioning : Tensor A.Elem} {p : Program A}
    (inputs : p.inputs = (declared (A := A) latents.shape conditioning.shape).inputs)
    (network : Option (Network A ν)) :
    p.checkInputs (Backend.eager network) [latents, conditioning] = .ok () := by
  refine p.checkInputs_eq_ok_iff.mpr ?_
  rw [inputs]
  rfl

/-- The program of a loop, replayed on tensors, does what the loop does on them. -/
theorem execute_eq_looped (widens : A.WidensExactly) (network : Option (Network A ν))
    {tracing : Scheduler A Value} {scheduler : Scheduler A (Tensor A.Elem)}
    {shapes : InputShapes} {guidance : A.Elem} {p : Program A}
    {latents conditioning : Tensor A.Elem}
    (schedulers : ∀ w, (shadow widens network).RelatedSchedulers w tracing scheduler)
    (traced : (sample tracing shapes guidance).program = .ok p)
    (latentShape : latents.shape = shapes.latent)
    (conditioningShape : shapes.conditioning = .ok conditioning.shape) (start : ν) :
    let looped :=
      Sampling.outcome (Backend.eager network) guidance latents conditioning start scheduler
    (p.execute (Backend.eager network) [latents, conditioning]).runOn start =
      (looped.answer, looped.backend) := by
  obtain ⟨v, r, completed, left, ran, rfl, -⟩ := program_eq_ok conditioningShape traced
  rw [← latentShape] at ran
  let w : Shadowed A := {
    recording := declared latents.shape conditioning.shape
    values := #[latents, conditioning]
    size_eq := rfl }
  have sampleStands : (shadow widens network).Related (some w) ⟨0, latents.shape⟩ latents :=
    ⟨rfl, rfl⟩
  have hiddenStands :
      (shadow widens network).Related (some w) ⟨1, conditioning.shape⟩ conditioning := ⟨rfl, rfl⟩
  have coupled := (shadow widens network).couples_run guidance 0 (schedulers _) sampleStands
    hiddenStands rfl rfl
  obtain ⟨new, rfl, outcome⟩ := coupled _ _ ran start
  obtain ⟨answer, backend⟩ := Sampling.outcome_eq (Backend.eager network) guidance latents
    conditioning start scheduler
  intro looped
  have recorded : ((w.recording.extended new).toProgram v.id).instructions.toList = new := by
    simp [Recording.toProgram, Recording.extended, w, declared]
  rw [Program.execute_eq_retaining, Program.executeRetaining, checkInputs_declared rfl, recorded,
    Action.ofExcept_ok, pure_bind]
  rcases outcome with ⟨h, after, replayed, loops, -⟩ |
    ⟨after, b, w', replayed, loops, -, -, stands, -⟩
  · rw [loops] at answer backend
    rw [Action.runOn_bind_error replayed]
    exact Prod.ext answer.symm backend.symm
  · rw [loops] at answer backend
    rw [Action.runOn_bind_ok replayed]
    change (Program.resultOf v.id w'.values).runOn after = _
    rw [Program.resultOf_eq_pure stands.1]
    exact Prod.ext answer.symm backend.symm

/-- Tracing and replaying is running: for every kind of scheduler and every network, the program of
a loop answers with what the loop answers with, or ends as it ends, leaves the network as it leaves
it, and calls it with the same arguments in the same order. -/
theorem execute_traced (widens : A.WidensExactly) {id : SchedulerId} {config : ScheduleConfig A}
    {seed : UInt64} {steps : Nat} {tracing : Scheduler A Value} {shapes : InputShapes}
    {guidance : A.Elem} {p : Program A}
    (planned : Scheduler.planned id config seed steps = .ok tracing)
    (traced : (sample tracing shapes guidance).program = .ok p) :
    ∃ scheduler : Scheduler A (Tensor A.Elem),
      Scheduler.planned id config seed steps = .ok scheduler ∧
      ∀ {ν : Type} (network : Network A ν) (start : ν) (latents conditioning : Tensor A.Elem),
        latents.shape = shapes.latent → shapes.conditioning = .ok conditioning.shape →
        let B := Backend.eager (some network.recorded)
        let looped := Sampling.outcome B guidance latents conditioning (start, #[]) scheduler
        (p.execute B [latents, conditioning]).runOn (start, #[]) =
          (looped.answer, looped.backend) := by
  obtain ⟨scheduler, plannedToo, -⟩ :=
    (shadow widens (none : Option (Network A Unit))).relatedSchedulers_planned (w := none) planned
  refine ⟨scheduler, plannedToo, ?_⟩
  intro ν network start latents conditioning latentShape conditioningShape
  refine execute_eq_looped widens (some network.recorded) ?_ traced latentShape conditioningShape _
  intro w
  obtain ⟨other, plannedAgain, related⟩ :=
    (shadow widens (some network.recorded)).relatedSchedulers_planned (w := w) planned
  cases plannedToo.symm.trans plannedAgain
  exact related

/-- Two steps without noise, with a network that answers with the sample. -/
theorem execute_traced_noiseless :
    ∃ (tracing : Scheduler whole Value) (p : Program whole)
      (scheduler : Scheduler whole (Tensor Int)),
      Scheduler.planned .ddim noiseless 0 2 = .ok tracing ∧
      (sample tracing ⟨1, 8, 8, 1⟩ (2 : Int)).program = .ok p ∧ p.calls = 2 ∧
      Scheduler.planned .ddim noiseless 0 2 = .ok scheduler ∧
      let B := Backend.eager (A := whole)
        (some (Network.ofFunction fun sample _ _ => .ok sample).recorded)
      let latents := Tensor.fill [1, 4, 1, 1] 3
      let conditioning := Tensor.fill [2, 77, 1] 0
      let looped := Sampling.outcome B (2 : Int) latents conditioning ((), #[]) scheduler
      (p.execute B [latents, conditioning]).runOn ((), #[]) =
        (looped.answer, looped.backend) := by
  have traces : (do
      let tracing ← Scheduler.planned .ddim noiseless 0 2
      let p ← (sample tracing ⟨1, 8, 8, 1⟩ (2 : Int)).program
      return p.calls : Except Halt Nat).toOption = some 2 := by
    decide +kernel
  obtain ⟨tracing, planned, rest⟩ :=
    Halt.bind_eq_ok_iff.mp (Halt.toOption_eq_some_iff.mp traces)
  obtain ⟨p, traced, counted⟩ := Halt.bind_eq_ok_iff.mp rest
  obtain ⟨scheduler, plannedToo, replays⟩ := execute_traced whole_widensExactly planned traced
  exact ⟨tracing, p, scheduler, planned, traced, Except.ok.inj counted, plannedToo,
    replays _ _ _ _ rfl rfl⟩

end Diffusion.Trace
