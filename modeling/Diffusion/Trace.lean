import Diffusion.Backend.Tracer
import Diffusion.Sampling

/-!
The sampling loop as a program.
-/

namespace Diffusion.Trace

variable {A : Arithmetic}

/-- The names of the two inputs of a traced loop. -/
def inputNames : String × String := ("sample", "encoder_hidden_states")

/-- Declares the inputs of a loop. -/
def declareInputs (latent conditioning : Shape) : Action (Recording A) (Value × Value) := do
  let sample ← Recording.declare inputNames.1 latent
  let hidden ← Recording.declare inputNames.2 conditioning
  return (sample, hidden)

/-- What came of tracing: the program or why there is none, the scheduler it left, and what was
logged. -/
structure Outcome (A : Arithmetic) where
  program : Except Halt (Program A)
  scheduler : Scheduler A Value
  events : List Event

/-- Traces the loop on inputs of fixed shapes. -/
def sample (scheduler : Scheduler A Value) (shapes : InputShapes) (guidance : A.Elem) :
    Outcome A :=
  match shapes.conditioning with
  | .error halt => { program := .error halt, scheduler, events := [] }
  | .ok conditioning =>
    let opening :=
      Event.tracing scheduler.id scheduler.timesteps.length shapes.latent
    let (inputs, recording) := (declareInputs shapes.latent conditioning).runOn Recording.empty
    match inputs with
    | .error halt => { program := .error halt, scheduler, events := [] }
    | .ok (latents, hidden) =>
      let ran := Sampling.outcome (Backend.tracer A) guidance latents hidden recording scheduler
      let program := ran.answer.bind ran.backend.finish
      let steps := Sampling.events (A := A) scheduler.timesteps ran.completed fun step total =>
        [.stepTraced step total]
      let closing := match program with
        | .ok p => [Event.traced p.instructions.size p.calls]
        | .error _ => []
      { program, scheduler := ran.scheduler, events := opening :: steps ++ closing }

end Diffusion.Trace
