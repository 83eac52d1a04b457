import Diffusion.Settings
import Diffusion.Settings.Tool

/-!
What can be set on the command line, and what is wrong with a command line.

Every setting has a name, some have a second one, and all but the switches take one value. Values
are read as they are set, so an `Options` holds only values that a setting may have.
-/

namespace Diffusion.CommandLine

/-- Something that can be set on the command line. -/
inductive Setting where
  | model | token | scheduler | steps | batch | height | width | guidance | seed | modelDir
  | compileTo | externalWeights | externalWeightPath | device | triple | maxAllocation | upload
  | outputDir | artifactPath | compare | help
deriving DecidableEq, Repr

namespace Setting

/-- The names of a setting, the first of which is shown. -/
def names : Setting → List String
  | model => ["hf-model-name"]
  | token => ["hf-auth-token"]
  | scheduler => ["scheduler-id"]
  | steps => ["num-inference-steps"]
  | batch => ["batch-size"]
  | height => ["height"]
  | width => ["width"]
  | guidance => ["guidance-scale"]
  | seed => ["seed"]
  | modelDir => ["model-dir"]
  | compileTo => ["compile-to"]
  | externalWeights => ["external-weights"]
  | externalWeightPath => ["external-weight-path"]
  | device => ["device"]
  | triple => ["target-triple", "iree-target-triple"]
  | maxAllocation => ["max-allocation", "vulkan-max-allocation"]
  | upload => ["upload-ir"]
  | outputDir => ["output-dir"]
  | artifactPath => ["artifact-path", "vmfb-path"]
  | compare => ["compare-reference"]
  | help => ["help"]

/-- Whether a setting is switched on by its name alone. -/
def isSwitch : Setting → Bool
  | upload | compare | help => true
  | _ => false

def shared : List Setting :=
  [model, token, scheduler, steps, batch, height, width, guidance, seed, modelDir,
   externalWeightPath, device, help]

def ofExport : List Setting :=
  shared ++ [compileTo, externalWeights, triple, maxAllocation, upload, outputDir]

def ofRun : List Setting := shared ++ [artifactPath, compare]

def find? (known : List Setting) (name : String) : Option Setting :=
  known.find? fun s => s.names.contains name

end Setting

/-- Why a command line leads to no command. -/
inductive Refusal where
  | help
  | version
  | nothingAsked
  | unknownCommand (name : String)
  | unknownArgument (argument : String)
  | valueForSwitch (name : String)
  | repeated (setting : Setting)
  | missingValue (setting : Setting)
  /-- The value is not one of those that the setting has. -/
  | unknownChoice (setting : Setting) (value : String)
  | unreadable (setting : Setting) (value : String)
  | missingSetting (setting : Setting)
deriving DecidableEq, Repr

namespace Refusal

/-- Whether a refusal is an answer to what was asked for. -/
def isAnswer : Refusal → Bool
  | help | version => true
  | _ => false

def message : Refusal → String
  | help => "help was asked for"
  | version => "the version was asked for"
  | nothingAsked => "nothing was asked for"
  | unknownCommand name => "unknown command '" ++ name ++ "'"
  | unknownArgument argument => "unknown argument '" ++ argument ++ "'"
  | valueForSwitch name => "'--" ++ name ++ "' takes no value"
  | repeated setting => "'--" ++ shown setting ++ "' is given twice"
  | missingValue setting => "'--" ++ shown setting ++ "' needs a value"
  | unknownChoice setting value | unreadable setting value =>
    "'" ++ value ++ "' is no value for '--" ++ shown setting ++ "'"
  | missingSetting setting => "'--" ++ shown setting ++ "' is missing"
where
  shown (setting : Setting) : String := setting.names.headD ""

end Refusal

/-- What a command line sets. -/
structure Options (A : Arithmetic) where
  /-- The settings made so far. -/
  given : List Setting
  config : ExportConfig A
  device : Option Device
  artifactPath : Option String
  compare : Bool

namespace Options

variable {A : Arithmetic}

def default (A : Arithmetic) : Options A := ⟨[], .default A, none, none, false⟩

def readable {α : Type} (s : Setting) (value : String) (found : Option α) : Except Refusal α :=
  match found with
  | some x => .ok x
  | none => .error (.unreadable s value)

/-- A value out of a list of choices with their names. -/
def choice {α : Type} (s : Setting) (value : String) (choices : List (String × α)) :
    Except Refusal α :=
  match choices.lookup value with
  | some x => .ok x
  | none => .error (.unknownChoice s value)

/-- A path, which must not be empty. -/
def path (s : Setting) (value : String) : Except Refusal String :=
  if value.isEmpty then .error (.missingValue s) else .ok value

/-- A whole number between two bounds, both included. -/
def whole (low high : Nat) (s : Setting) (value : String) : Except Refusal Nat :=
  readable s value <| do
    let n ← Numeral.integer? value
    if low ≤ n ∧ n ≤ high then some n.toNat else none

/-- The largest count that an option takes. -/
def maxCount : Nat := UInt32.size - 1

/-- The most steps that an option takes. -/
def maxSteps : Nat := 999

def word (s : Setting) (value : String) : Except Refusal Nat :=
  readable s value (Numeral.unsigned? Halt.wordLimit value)

/-- The names of stages, those of other compilers included. -/
def stages : List (String × CompileStage) :=
  [("trace", .trace), ("torch", .trace), ("lowered", .lowered), ("linalg", .lowered),
   ("binary", .binary), ("vmfb", .binary)]

def formats : List (String × WeightsFormat) := [(WeightsFormat.safetensors.text, .safetensors)]

/-- Puts a value in its place. Switches do not look at theirs. -/
def put (o : Options A) (s : Setting) (value : String) : Except Refusal (Options A) := do
  match s with
  | .model => return { o with config.sampling.model := value }
  | .token => return { o with config.sampling.authToken := some value }
  | .scheduler => return { o with config.sampling.schedulerId := value }
  | .steps => return { o with config.sampling.steps := ← whole 1 maxSteps s value }
  | .batch => return { o with config.sampling.batch := ← whole 1 maxCount s value }
  | .height => return { o with config.sampling.height := ← whole 0 maxCount s value }
  | .width => return { o with config.sampling.width := ← whole 0 maxCount s value }
  | .guidance =>
    return { o with config.sampling.guidance := ← readable s value (A.text.typed? value) }
  | .seed => return { o with config.sampling.seed := UInt64.ofNat (← word s value) }
  | .modelDir => return { o with config.sampling.modelDir := some (← path s value) }
  | .compileTo => return { o with config.compileTo := ← choice s value stages }
  | .externalWeights =>
    return { o with config.externalWeights := some (← choice s value formats) }
  | .externalWeightPath => return { o with config.externalWeightPath := some (← path s value) }
  | .device => return { o with device := some (← readable s value (Device.parse? value)) }
  | .triple => return { o with config.target.triple := some value }
  | .maxAllocation => return { o with config.target.maxAllocation := ← word s value }
  | .upload => return { o with config.upload := true }
  | .outputDir => return { o with config.outputDir := ← path s value }
  | .artifactPath => return { o with artifactPath := some (← path s value) }
  | .compare => return { o with compare := true }
  | .help => throw .help

def assign (o : Options A) (s : Setting) (value : String) : Except Refusal (Options A) := do
  if o.given.contains s then throw (.repeated s)
  let o ← o.put s value
  return { o with given := s :: o.given }

/-- The device: the one set here, else that of the tool, else the host. -/
def effectiveDevice (o : Options A) (tool : ToolConfig) : Device :=
  (o.device.or tool.device).getD .cpu

def toExport (o : Options A) (tool : ToolConfig) : ExportConfig A :=
  { o.config with target.device := o.effectiveDevice tool }

def toRun (o : Options A) (artifactPath : String) (tool : ToolConfig) : RunConfig A where
  sampling := o.config.sampling
  artifactPath
  externalWeightPath := o.config.externalWeightPath
  device := o.effectiveDevice tool
  compare := o.compare

end Options

end Diffusion.CommandLine
