import Diffusion.Sampling
import Diffusion.Target

/-!
The settings of one export or one run.
-/

namespace Diffusion

/-- The model, the scheduler and the sizes, which exports and runs share. -/
structure SamplingConfig (A : Arithmetic) where
  model : String
  /-- What a gated model asks for at its download. It is read but never written. -/
  authToken : Option String
  schedulerId : String
  steps : Nat
  batch : Nat
  height : Nat
  width : Nat
  guidance : A.Elem
  /-- Determines the random inputs and the noise of stochastic schedulers. -/
  seed : UInt64
  /-- Where the files of the model are; without it, below the tool's model directory. -/
  modelDir : Option String

namespace SamplingConfig

variable {A : Arithmetic}

def defaultModel : String := "CompVis/stable-diffusion-v1-4"

def defaultScheduler : String := "PNDM"

/-- What applies where nothing is given. -/
def default (A : Arithmetic) : SamplingConfig A where
  model := defaultModel
  authToken := none
  schedulerId := defaultScheduler
  steps := 50
  batch := 1
  height := 512
  width := 512
  guidance := Sampling.defaultGuidance A
  seed := 0
  modelDir := none

/-- The settings as an object, without the token. -/
def toJson (c : SamplingConfig A) : Json :=
  .object
    [("model", .string c.model), ("scheduler_id", .string c.schedulerId),
     ("num_inference_steps", .nat c.steps), ("batch_size", .nat c.batch),
     ("height", .nat c.height), ("width", .nat c.width),
     ("guidance_scale", .ofNumeral? (A.text.json? c.guidance)), ("seed", .nat c.seed.toNat),
     ("model_dir", .ofOption .string c.modelDir)]

def ofJson? (j : Json) : Option (SamplingConfig A) := do
  let r ← j.asRecord?
    ["model", "auth_token", "scheduler_id", "num_inference_steps", "batch_size", "height",
     "width", "guidance_scale", "seed", "model_dir"]
  return {
    model := ← r.required? "model" Json.asString?
    authToken := ← r.optional? "auth_token" Json.asString?
    schedulerId := ← r.required? "scheduler_id" Json.asString?
    steps := ← r.required? "num_inference_steps" Json.asWord?
    batch := ← r.required? "batch_size" Json.asWord?
    height := ← r.required? "height" Json.asWord?
    width := ← r.required? "width" Json.asWord?
    guidance := ← r.required? "guidance_scale" (Json.asNumber? A.text.ofJson?)
    seed := UInt64.ofNat (← r.required? "seed" Json.asWord?)
    modelDir := ← r.optional? "model_dir" Json.asString? }

end SamplingConfig

structure ExportConfig (A : Arithmetic) where
  sampling : SamplingConfig A
  compileTo : CompileStage
  /-- Keeps the parameters outside the artifact, in this format. -/
  externalWeights : Option WeightsFormat
  /-- Where they are kept then; without it, next to the listing. -/
  externalWeightPath : Option String
  target : TargetSpec
  upload : Bool
  outputDir : String

def ExportConfig.default (A : Arithmetic) : ExportConfig A where
  sampling := .default A
  compileTo := .trace
  externalWeights := none
  externalWeightPath := none
  target := .default
  upload := false
  outputDir := "."

structure RunConfig (A : Arithmetic) where
  sampling : SamplingConfig A
  artifactPath : String
  externalWeightPath : Option String
  device : Device
  /-- Runs the sampling loop as well and compares the results. -/
  compare : Bool

end Diffusion
