import Diffusion.Event
import Diffusion.Parameters
import Diffusion.Program.Encoding
import Diffusion.Program.Footprint
import Diffusion.Program.Validity
import Diffusion.Target

/-!
Artifacts: a program with all that is needed to run it, in one container.

The texts of the container's header make up the manifest; parameters inside the artifact are its
tensors.
-/

namespace Diffusion

/-- What an artifact says of itself. -/
structure Manifest (A : Arithmetic) where
  program : Program A
  target : TargetSpec
  peakBytes : Nat
  weights : List ParameterEntry
  weightsMode : WeightsMode
  createdBy : String

namespace Manifest

variable {A : Arithmetic}

/-- The tag of artifacts in their header. -/
def format : String := "sd-scheduler-aot/artifact-v1"

/-- Who writes artifacts. -/
def creator : String := "sd-scheduler-aot 0.1.0"

def toTexts (m : Manifest A) : List (String × String) :=
  [("format", format), ("program", m.program.encode), ("target", m.target.toJson.text),
   ("peak_bytes", toString m.peakBytes), ("weights", ParameterEntry.encodeAll m.weights),
   ("weights_mode", m.weightsMode.text), ("created_by", m.createdBy)]

def field (texts : List (String × String)) (name : String) : Except Error String :=
  match Container.text? texts name with
  | some text => .ok text
  | none => .error (.missingField name)

/-- A text that must be there and stand for a value. -/
def decoded {α : Type} (texts : List (String × String)) (name : String)
    (decode : String → Option α) (error : Error) : Except Error α := do
  match decode (← field texts name) with
  | some x => return x
  | none => throw error

/-- The manifest of texts, with all checks, in this order. -/
def ofTexts (texts : List (String × String)) : Except Halt (Manifest A) := do
  let found ← Halt.ofResult (field texts "format")
  if found ≠ format then Halt.fail (.unsupportedFormat found format)
  let program ← Halt.ofResult (do Program.decode (← field texts "program"))
  Halt.mapError .invalidProgram program.validate
  let weights ← Halt.ofResult <|
    decoded texts "weights" ParameterEntry.decodeAll?
      (.malformedField "weights" "no list of entries")
  Halt.ofResult (ParameterEntry.checkKeys weights)
  Halt.ofResult do
    let target ← decoded texts "target" (fun s => (Json.parse? s).bind TargetSpec.ofJson?)
      (.malformedField "target" "no target")
    let peakBytes ← decoded texts "peak_bytes" (Numeral.unsigned? Halt.wordLimit) .malformedPeak
    let weightsMode ← decoded texts "weights_mode" WeightsMode.parse? .unknownWeightsMode
    let createdBy := (Container.text? texts "created_by").getD ""
    return { program, target, peakBytes, weights, weightsMode, createdBy }

end Manifest

structure Artifact (A : Arithmetic) where
  manifest : Manifest A
  bytes : ByteArray

namespace Artifact

variable {A : Arithmetic}

structure Request (A : Arithmetic) where
  program : Program A
  target : TargetSpec
  parameters : Parameters
  weightsMode : WeightsMode

/-- The manifest of a request, once its program is checked and fits under the ceiling. -/
def manifestOf (r : Request A) : Except Halt (Manifest A) := do
  r.program.validate
  let peakBytes ← r.program.peakLiveBytes
  if r.target.maxAllocation < peakBytes then
    Halt.fail (.allocationLimit peakBytes r.target.maxAllocation)
  return {
    program := r.program
    target := r.target
    peakBytes
    weights := r.parameters.entries
    weightsMode := r.weightsMode
    createdBy := Manifest.creator }

def Request.inside (r : Request A) : List (String × ByteArray) :=
  match r.weightsMode with
  | .inside => r.parameters.stored
  | .outside => []

def compile (r : Request A) : Except Halt (Artifact A) := do
  let manifest ← manifestOf r
  return { manifest, bytes := ← Container.write r.inside manifest.toTexts }

/-- The events of compiling a request: the peak once it is known, then the end. -/
def compileEvents (r : Request A) : List Event :=
  match r.program.validate, r.program.peakLiveBytes with
  | .ok (), .ok peak =>
    .peakComputed peak r.target.maxAllocation ::
      match compile r with
      | .ok _ =>
        [.compiled r.target.device.text r.program.instructions.size r.program.calls
          r.weightsMode.text]
      | .error _ => []
  | _, _ => []

/-- Reads an artifact: its manifest, and the parameters inside it if it says that there are. -/
def parse (bytes : ByteArray) : Except Halt (Manifest A × Option Parameters) := do
  let container ← Halt.ofResult ((Container.read bytes).mapError .notAnArtifact)
  let some texts := container.metadata | Halt.fail .noMetadata
  let manifest ← Manifest.ofTexts texts
  match manifest.weightsMode with
  | .inside =>
    let parameters ← Halt.ofResult (Parameters.ofContainer container manifest.weights)
    return (manifest, some parameters)
  | .outside => return (manifest, none)

end Artifact

end Diffusion
