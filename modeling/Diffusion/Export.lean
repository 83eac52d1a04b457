import Diffusion.Artifact
import Diffusion.ModelFiles
import Diffusion.Program.Listing
import Diffusion.Program.Lowering
import Diffusion.Settings
import Diffusion.Settings.Tool
import Diffusion.Trace
import Diffusion.Upload

/-!
Exports: the sampling loop of some settings as a listing and, when asked for, as an artifact.
-/

namespace Diffusion.Export

variable {A : Arithmetic} {m : Type → Type} [Monad m] (host : Host m)

/-- What an export wrote. -/
structure Outcome where
  listingPath : String
  artifactPath : Option String
  weightsPath : Option String
  listing : String
deriving Repr

def logAll (events : List Event) : Job m Unit := events.forM fun event => Job.call (host.log event)

def shapesOf (sampling : SamplingConfig A) (model : ModelSpec) : Except Error InputShapes :=
  InputShapes.check sampling.batch sampling.height sampling.width model.embedding

/-- A scheduler with a planned pass for the settings and a model. -/
def plannedScheduler {τ : Type} (sampling : SamplingConfig A) (id : SchedulerId)
    (model : ModelSpec) : Except Halt (Scheduler A τ) := do
  let scheduler ← Scheduler.create id (.stableDiffusion A model.predictionType) sampling.seed
  let (planned, scheduler) := (Scheduler.plan sampling.steps).runOn scheduler
  planned
  return scheduler

/-- Traces the loop and lowers it unless the trace itself is asked for. -/
def buildProgram (config : ExportConfig A) (id : SchedulerId) (model : ModelSpec)
    (shapes : InputShapes) : Job m (Program A) := do
  let scheduler ← Job.ofExcept (plannedScheduler config.sampling id model)
  let traced := Trace.sample scheduler shapes config.sampling.guidance
  logAll host traced.events
  let whole ← Job.ofExcept traced.program
  let program ← match config.compileTo with
    | .trace => pure whole
    | .lowered | .binary => do
      let lowered ← Job.ofExcept whole.lower
      Job.call (host.log (.lowered whole.instructions.size lowered.instructions.size))
      pure lowered
  Job.call (host.log (.built id config.compileTo.text program.instructions.size))
  return program

/-- Writes the parameters outside the artifact if the settings ask for it. -/
def writeWeights (config : ExportConfig A) (model : ModelSpec) (parameters : Parameters) :
    Job m (Option String) :=
  match config.externalWeights with
  | none => return none
  | some format => do
    let path := config.externalWeightPath.getD <|
      Path.join config.outputDir (ModelSpec.safeName model.id "" ++ "." ++ format.text)
    let _ ← parameters.writeArchive host path
    return some path

def globalsOf (parameters : Parameters) : List ParameterGlobal :=
  parameters.entries.map fun e => ⟨e.storageName, e.size⟩

/-- Sends a listing to the blob container of the tool. -/
def uploadListing (tool : ToolConfig) (model : ModelSpec) (path : String) : Job m Unit :=
  match tool.blobUrl with
  | some container => Upload.send host path container (ModelSpec.blobPath model.id)
  | none => do
    Job.call (host.log .containerUnset)
    Job.fail .noContainer

def writeArtifact (r : Artifact.Request A) (path : String) : Job m Unit := do
  logAll host (Artifact.compileEvents r)
  let artifact ← Job.ofExcept (Artifact.compile r)
  Job.file (host.write path artifact.bytes) (.file "write" path)
  Job.call (host.log (.artifactWritten path artifact.bytes.size))

def withParameters (config : ExportConfig A) (tool : ToolConfig) (parameters : Parameters) :
    Job m Outcome := do
  let id ← Job.ofResult (SchedulerId.lookup config.sampling.schedulerId)
  let model := ModelSpec.resolve config.sampling.model
  let shapes ← Job.ofResult (shapesOf config.sampling model)
  let program ← buildProgram host config id model shapes
  Job.file (host.makeDirectories config.outputDir) (.file "create" config.outputDir)
  let weightsPath ← writeWeights host config model parameters
  let storage := if weightsPath.isSome then ParameterStorage.archived else .embedded
  let listing := program.listing config.compileTo.text (globalsOf parameters) storage
  let name := ModelSpec.safeName model.id "-scheduler"
  let listingPath := Path.join config.outputDir (name ++ ".mlir")
  Job.file (host.write listingPath listing.toUTF8) (.file "write" listingPath)
  Job.call (host.print ("Saved to " ++ listingPath))
  if config.upload then uploadListing host tool model listingPath
  let artifactPath ← match config.compileTo with
    | .trace | .lowered => pure none
    | .binary => do
      let path := Path.join config.outputDir (name ++ ".artifact")
      let weightsMode := if weightsPath.isSome then WeightsMode.outside else .inside
      writeArtifact host { program, target := config.target, parameters, weightsMode } path
      pure (some path)
  return { listingPath, artifactPath, weightsPath, listing }

/-- Exports with the parameters of the model. The scheduler and the sizes are checked before any
file is looked at. -/
def run (config : ExportConfig A) (tool : ToolConfig) (environment : Environment) :
    Job m Outcome := do
  let sampling := config.sampling
  let _ ← Job.ofResult (SchedulerId.lookup sampling.schedulerId)
  let model := ModelSpec.resolve sampling.model
  let _ ← Job.ofResult (shapesOf sampling model)
  let directory := sampling.modelDir.getD (model.directory (tool.modelRoot environment))
  ModelFiles.ensure host model sampling.authToken directory
  withParameters host config tool (← Parameters.loadModel host directory)

end Diffusion.Export
