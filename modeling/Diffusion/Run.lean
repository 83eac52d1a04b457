import Diffusion.Artifact.Load
import Diffusion.Comparison
import Diffusion.Export
import Diffusion.Program.Inputs
import Diffusion.Tensor.Display

/-!
Runs: the program of an artifact on random inputs, compared with the sampling loop when asked for.
-/

namespace Diffusion.Run

variable {A : Arithmetic} {ν : Type} {m : Type → Type} [Monad m] (host : Host m)

structure Outcome (A : Arithmetic) where
  output : Tensor A.Elem
  reference : Option (Tensor A.Elem)
  maxError : Option A.Elem

/-- A call on the state of the network, inside a program that keeps it. -/
def onNetwork {α : Type} (x : Action ν α) : Job (StateT ν m) α := fun state =>
  pure (x.runOn state)

/-- Runs the loop of the settings on the two inputs of a program. -/
def reference (config : RunConfig A) (id : SchedulerId) (network : Network A ν)
    (inputs : List (Tensor A.Elem)) : Job (StateT ν m) (Tensor A.Elem) :=
  match inputs with
  | [latents, conditioning] => do
    let sampling := config.sampling
    let scheduler ← Job.ofExcept <|
      Export.plannedScheduler sampling id (ModelSpec.resolve sampling.model)
    let ran := Sampling.outcome (Backend.eager (some network)) sampling.guidance latents
      conditioning (← Job.call get) scheduler
    Job.call (set ran.backend)
    Export.logAll (host.withState ν) <|
      Sampling.events (A := A) scheduler.timesteps ran.completed fun step total =>
        [.referenceStep step total]
    Job.ofExcept ran.answer
  | _ => Job.fail (.referenceInputs inputs.length)

/-- Compares an output with that of the loop. -/
def compareWith (config : RunConfig A) (id : SchedulerId) (network : Network A ν)
    (inputs : List (Tensor A.Elem)) (output : Tensor A.Elem) :
    Job (StateT ν m) (Outcome A) := do
  let host' := host.withState ν
  let expected ← reference host config id network inputs
  Job.call (host'.print ("REFERENCE OUTPUT: " ++ expected.display A.text.plain))
  let error ← Job.ofResult (Comparison.maxError output expected)
  let tolerance := Comparison.parityTolerance A
  Job.call (host'.print ("Largest error: " ++ A.text.exponential error))
  Job.call (host'.log (.compared (A.text.logged error) (A.text.logged tolerance)))
  Job.ofResult (Comparison.checkParity error tolerance)
  return { output, reference := some expected, maxError := some error }

/-- The scheduler to compare with, if there is to be a comparison. -/
def referenceId (config : RunConfig A) : Except Error (Option SchedulerId) := do
  if config.compare then return some (← SchedulerId.lookup config.sampling.schedulerId)
  else return none

/-- Runs a loaded artifact with a network on random inputs and prints the results. -/
def withNetwork (config : RunConfig A) (a : LoadedArtifact A) (network : Network A ν) :
    Job (StateT ν m) (Outcome A) := do
  let id ← Job.ofResult (referenceId config)
  let inputs ← Job.ofExcept (a.manifest.program.randomInputs config.sampling.seed)
  let output ← onNetwork (a.invoke network inputs)
  let host' := host.withState ν
  Job.call (host'.print ("OUTPUT: " ++ output.display A.text.plain))
  Job.call (host'.print ("shape: " ++ output.shape.text ++ ", dtype: float32"))
  match id with
  | none => return { output, reference := none, maxError := none }
  | some id => compareWith host config id network inputs output

/-- Loads the artifact of the settings and opens its network. The scheduler to compare with is
checked before any file is looked at. -/
def run (config : RunConfig A) : Job m Unit := do
  let _ ← Job.ofResult (referenceId config)
  let loaded ← LoadedArtifact.load (A := A) host config.artifactPath config.device
    config.externalWeightPath
  loaded.network host

end Diffusion.Run
