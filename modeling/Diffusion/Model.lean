import Diffusion.Files.Path
import Diffusion.Schedule

/-!
Pretrained models: what an identifier says about a model, and the names derived from it.
-/

namespace Diffusion

/-- What the sampling loop needs to know of a model. -/
structure ModelSpec where
  id : String
  /-- The width of the conditioning. -/
  embedding : Nat
  predictionType : PredictionType
deriving DecidableEq, Repr

namespace ModelSpec

/-- The revision that holds the graph of a model. -/
def revision : String := "onnx"

/-- Models with a wide text encoder. -/
def wideModels : List String :=
  ["stabilityai/stable-diffusion-2-1", "stabilityai/stable-diffusion-2-1-base"]

/-- Models that predict velocities. -/
def velocityModels : List String := ["stabilityai/stable-diffusion-2-1"]

/-- The model of an identifier. Unknown ones have the usual width and predict noise. -/
def resolve (id : String) : ModelSpec where
  id
  embedding := if wideModels.contains id then 1024 else 768
  predictionType := if velocityModels.contains id then .vPrediction else .epsilon

def replaceChar (old new : Char) (s : String) : String := s.map fun c => if c = old then new else c

def lastSegment (s : String) : String :=
  String.ofList (s.toList.reverse.takeWhile (· ≠ '/')).reverse

/-- A name for files: the last segment of an identifier and a suffix, with underscores for
hyphens. -/
def safeName (id suffix : String) : String := replaceChar '-' '_' (lastSegment id ++ suffix)

/-- Where a file of the model can be downloaded. -/
def fileUrl (m : ModelSpec) (file : String) : String :=
  "https://huggingface.co/" ++ m.id ++ "/resolve/" ++ revision ++ "/" ++ file

/-- The directory of the model below the directory of models. -/
def directory (m : ModelSpec) (root : String) : String := Path.join root (safeName m.id "")

/-- The blob that receives the listing of a model. -/
def blobPath (id : String) : String :=
  let name := replaceChar '/' '-' id ++ "_scheduler"
  name ++ "/" ++ name ++ ".mlir"

end ModelSpec

end Diffusion
