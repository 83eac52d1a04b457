import Diffusion.Artifact
import Diffusion.Backend.Eager
import Diffusion.Parameters.Store
import Diffusion.Program.Execution

/-!
Loading artifacts and running the programs in them.
-/

namespace Diffusion

/-- An artifact with its parameters, bound to a device. -/
structure LoadedArtifact (A : Arithmetic) where
  manifest : Manifest A
  parameters : Parameters
  device : Device

namespace LoadedArtifact

variable {A : Arithmetic} {m : Type → Type} [Monad m] (host : Host m)

/-- The parameters of an artifact: those inside it, or those of an archive. -/
def resolve (manifest : Manifest A) (inside : Option Parameters) (archive : Option String) :
    Job m Parameters :=
  match inside with
  | some parameters => pure parameters
  | none =>
    match archive with
    | some path => Parameters.readArchive host path manifest.weights
    | none => Job.fail .noWeightPath

def load (path : String) (device : Device) (archive : Option String) :
    Job m (LoadedArtifact A) := do
  let bytes ← Job.file (host.read path) (.artifactUnreadable path)
  let (manifest, inside) ← Job.ofExcept (Artifact.parse bytes)
  if manifest.target.device ≠ device then
    Job.fail (.deviceMismatch manifest.target.device.text device.text)
  let parameters ← resolve host manifest inside archive
  Job.call <| host.log <|
    .artifactLoaded path device.text manifest.weightsMode.text manifest.program.calls
  return { manifest, parameters, device }

def invoke {ν : Type} (a : LoadedArtifact A) (network : Network A ν)
    (inputs : List (Tensor A.Elem)) : Action ν (Tensor A.Elem) :=
  a.manifest.program.execute (Backend.eager (some network)) inputs

/-- Opens the network in a directory. There is no engine here to run a graph with. -/
def openNetwork (directory : String) : Job m Unit := do
  let graph := Path.join directory Parameters.graphKey
  if ← Job.call (host.holds graph) then Job.fail (.inferenceUnavailable graph)
  else Job.fail (.graphMissing graph)

/-- Runs a job in a directory of its own, which is gone afterwards. -/
def inScratch {α : Type} (job : String → Job m α) : Job m α := do
  let directory ← Job.file host.scratch (.ioContext "Failed to create scratch directory")
  let answer ← Job.call (job directory).run
  Job.call (host.discard directory)
  Job.ofExcept answer

/-- Opens the network of an artifact, from files unpacked for it. -/
def network (a : LoadedArtifact A) : Job m Unit :=
  inScratch host fun directory => do
    Parameters.unpack host a.parameters directory
    Job.call (host.log (.parametersUnpacked directory))
    openNetwork host directory

end LoadedArtifact

end Diffusion
