import Diffusion.Shape
import Diffusion.Container.Fault

/-!
Everything that can go wrong, by its cause.

An `Error` names the cause and what it concerns; its code says which stage failed and its message
puts it into words. A `Halt` is the end of a call without a value: an error that is reported, or a
computation that cannot go on at all.
-/

namespace Diffusion

/-- The failing stage of an export or a run. -/
inductive ErrorCode where
  | unknownScheduler
  | schedulerNotInitialized
  | modelNotFound
  | modelLoadFailed
  | modelDownloadFailed
  | invalidShape
  | traceFailed
  | compileFailed
  | allocationLimitExceeded
  | artifactInvalid
  | deviceMismatch
  | executionFailed
  | numericMismatch
  | uploadFailed
  | ioFailed
deriving DecidableEq, Repr

namespace ErrorCode

def all : List ErrorCode :=
  [unknownScheduler, schedulerNotInitialized, modelNotFound, modelLoadFailed, modelDownloadFailed,
   invalidShape, traceFailed, compileFailed, allocationLimitExceeded, artifactInvalid,
   deviceMismatch, executionFailed, numericMismatch, uploadFailed, ioFailed]

def text : ErrorCode → String
  | unknownScheduler => "UNKNOWN_SCHEDULER"
  | schedulerNotInitialized => "SCHEDULER_NOT_INITIALIZED"
  | modelNotFound => "MODEL_NOT_FOUND"
  | modelLoadFailed => "MODEL_LOAD_FAILED"
  | modelDownloadFailed => "MODEL_DOWNLOAD_FAILED"
  | invalidShape => "INVALID_SHAPE"
  | traceFailed => "TRACE_FAILED"
  | compileFailed => "COMPILE_FAILED"
  | allocationLimitExceeded => "ALLOCATION_LIMIT_EXCEEDED"
  | artifactInvalid => "ARTIFACT_INVALID"
  | deviceMismatch => "DEVICE_MISMATCH"
  | executionFailed => "EXECUTION_FAILED"
  | numericMismatch => "NUMERIC_MISMATCH"
  | uploadFailed => "UPLOAD_FAILED"
  | ioFailed => "IO_FAILED"

/-- What to try next. -/
def hint : ErrorCode → String
  | unknownScheduler =>
    "Use one of PNDM, DDIM, DDPM, EulerDiscrete, EulerAncestralDiscrete, LMSDiscrete"
  | schedulerNotInitialized => "Call set_timesteps with a positive step count before sampling"
  | modelNotFound =>
    "Run export once with network access (and --hf-auth-token for gated models), " ++
    "or place unet/model.onnx under --model-dir"
  | modelLoadFailed =>
    "Verify the ONNX files are complete, or delete the model cache and re-download"
  | modelDownloadFailed => "Check the network connection, the model identifier and the auth token"
  | invalidShape => "Height and width must be positive multiples of 8 and batch size at least 1"
  | traceFailed => "Re-run with RUST_LOG=debug to see the failing operation"
  | compileFailed => "Re-export the program; it may have been hand-edited"
  | allocationLimitExceeded => "Raise --max-allocation or reduce batch size / resolution"
  | artifactInvalid =>
    "Re-export the artifact, and pass --external-weight-path if it was compiled " ++
    "with external weights"
  | deviceMismatch => "Run with the --device the artifact was compiled for"
  | executionFailed => "Check available memory, or run on --device cpu"
  | numericMismatch =>
    "Make sure the artifact was exported with the same model, scheduler and step count"
  | uploadFailed => "Check SD_AOT_BLOB_URL and its write permissions"
  | ioFailed => "Check the path exists and is writable"

/-- The words with which the messages of a code begin. -/
def lead : ErrorCode → String
  | modelNotFound => "Model files not found: "
  | modelLoadFailed => "Failed to load model: "
  | modelDownloadFailed => "Failed to download model: "
  | traceFailed => "Tracing failed: "
  | compileFailed => "Compilation failed: "
  | artifactInvalid => "Invalid artifact: "
  | executionFailed => "Execution failed: "
  | uploadFailed => "Upload failed: "
  | _ => ""

end ErrorCode

/-- Why a file operation failed. -/
inductive FileFault where
  | notFound
  | alreadyExists
  | notADirectory
  | isADirectory
  /-- A name or the whole path has too many bytes. -/
  | nameTooLong
  /-- A zero byte ends a path for the system, so no path may hold one. -/
  | zeroInPath
  | other (text : String)
deriving DecidableEq, Repr

namespace FileFault

/-- What is said of a path with a zero byte. -/
def zeroText : String := "file name contained an unexpected NUL byte"

def text : FileFault → String
  | notFound => "No such file or directory (os error 2)"
  | alreadyExists => "File exists (os error 17)"
  | notADirectory => "Not a directory (os error 20)"
  | isADirectory => "Is a directory (os error 21)"
  | nameTooLong => "File name too long (os error 36)"
  | zeroInPath => zeroText
  | other text => text

/-- The fault in the form that a failed write of a container reports. -/
def structured : FileFault → String
  | notFound => record "2" "NotFound" "No such file or directory"
  | alreadyExists => record "17" "AlreadyExists" "File exists"
  | notADirectory => record "20" "NotADirectory" "Not a directory"
  | isADirectory => record "21" "IsADirectory" "Is a directory"
  | nameTooLong => record "36" "InvalidFilename" "File name too long"
  | zeroInPath =>
    "IoError(Error \x7b kind: InvalidInput, message: " ++ Text.quoted zeroText ++ " \x7d)"
  | other text => "IoError(" ++ text ++ ")"
where
  record (number kind words : String) : String :=
    "IoError(Os \x7b code: " ++ number ++ ", kind: " ++ kind ++ ", message: " ++
      Text.quoted words ++ " \x7d)"

end FileFault

/-- A failure by its cause. -/
inductive Error where
  -- schedules
  | unknownScheduler (name : String) (known : List String)
  | noTimesteps (scheduler : String)
  | noInferenceSteps
  | tooManySteps (most train given : Nat)
  | timestepOffSchedule (timestep : String)
  -- shapes
  | shapeMismatch (operation : String) (left right : Shape)
  | noTerms
  | stackTooLarge
  | unsplittable (shape : Shape)
  | unsliceable (shape : Shape)
  | emptyBatch
  | badExtent (name : String) (given : Nat)
  | emptyEmbedding
  | badLatents (shape : Shape)
  | badConditioning (rows : Nat) (shape : Shape)
  | inputCount (expected given : Nat)
  | inputShape (name : String) (expected given : Shape)
  | inputTooLarge (name : String)
  | referenceInputs (given : Nat)
  -- programs
  | lateInput (name : String)
  | invalidTrace (cause : Error)
  | useBeforeDefinition (value operand : Nat)
  | declaredShape (value : Nat) (mnemonic : String) (declared implied : Shape)
  | undefinedValue (value : Nat)
  | undefinedOutput (value : Nat)
  -- execution
  | noNetwork
  | networkShape (returned sample : Shape)
  | networkFailed (reason : String)
  | valueMissing (value : Nat)
  | producedShape (value : Nat) (produced expected : Shape)
  | outputMissing
  -- compilation
  | allocationLimit (peak limit : Nat)
  | archiveUnwritable (path : String) (fault : FileFault)
  -- artifacts
  | artifactUnreadable (path : String) (fault : FileFault)
  | archiveUnreadable (path : String) (fault : FileFault)
  | notAnArtifact (fault : ContainerFault)
  | notAnArchive (path : String) (fault : ContainerFault)
  | noMetadata
  | missingField (key : String)
  | unsupportedFormat (found expected : String)
  | malformedProgram (detail : String)
  | malformedField (field : String) (detail : String)
  | malformedPeak
  | invalidProgram (cause : Error)
  | unknownWeightsMode
  | unexpectedKey (key : String)
  | parameterNotFound (storageName : String) (fault : ContainerFault)
  | parameterSize (key : String) (found expected : Nat)
  | fingerprintMismatch (key expected found : String)
  | refusedKey (key : String)
  | noWeightPath
  | deviceMismatch (compiledFor requested : String)
  -- models
  | graphMissing (path : String)
  | modelFilesMissing (directory : String) (files : List String)
  | inferenceUnavailable (path : String)
  | downloadDirectory (path : String) (fault : FileFault)
  | requestRefused (url : String)
  | transferUnavailable (url : String)
  -- comparison and upload
  | parityExceeded (error tolerance : String)
  | noContainer
  | uploadRefused (blob : String) (url : Option String)
  | uploadUnavailable (blob : String)
  -- files and environment
  | file (action : String) (path : String) (fault : FileFault)
  | ioContext (context : String) (fault : FileFault)
  | environment (problem : String)
  -- failures stated by a caller
  | stated (code : ErrorCode) (reason : String)
  | verbatim (code : ErrorCode) (message : String)
deriving Repr

namespace Error

/-- The stage that failed. -/
def code : Error → ErrorCode
  | unknownScheduler .. => .unknownScheduler
  | noTimesteps _ | noInferenceSteps | tooManySteps .. | timestepOffSchedule _ =>
    .schedulerNotInitialized
  | shapeMismatch .. | noTerms | stackTooLarge | unsplittable _ | unsliceable _ | emptyBatch
  | badExtent .. | emptyEmbedding | badLatents _ | badConditioning .. | inputCount ..
  | inputShape .. | inputTooLarge _ | referenceInputs _ => .invalidShape
  | lateInput _ | invalidTrace _ => .traceFailed
  | useBeforeDefinition .. | declaredShape .. | undefinedValue _ | undefinedOutput _
  | archiveUnwritable .. => .compileFailed
  | noNetwork | networkShape .. | networkFailed _ | valueMissing _ | producedShape ..
  | outputMissing => .executionFailed
  | allocationLimit .. => .allocationLimitExceeded
  | artifactUnreadable .. | archiveUnreadable .. | notAnArtifact _ | notAnArchive .. | noMetadata
  | missingField _ | unsupportedFormat .. | malformedProgram _ | malformedField ..
  | malformedPeak | invalidProgram _ | unknownWeightsMode | unexpectedKey _
  | parameterNotFound .. | parameterSize .. | fingerprintMismatch .. | refusedKey _
  | noWeightPath => .artifactInvalid
  | deviceMismatch .. => .deviceMismatch
  | graphMissing _ | modelFilesMissing .. => .modelNotFound
  | inferenceUnavailable _ => .modelLoadFailed
  | downloadDirectory .. | requestRefused _ | transferUnavailable _ => .modelDownloadFailed
  | parityExceeded .. => .numericMismatch
  | noContainer | uploadRefused .. | uploadUnavailable _ => .uploadFailed
  | file .. | ioContext .. | environment _ => .ioFailed
  | stated code _ | verbatim code _ => code

/-- The words for a cause, after the code's own lead. -/
def reason : Error → String
  | unknownScheduler name known =>
    "Unknown scheduler '" ++ name ++ "' (known: " ++ ", ".intercalate known ++ ")"
  | noTimesteps scheduler => "Scheduler " ++ scheduler ++ " has no timesteps"
  | noInferenceSteps => "num_inference_steps must be at least 1"
  | tooManySteps most train given =>
    s!"num_inference_steps must be at most {most} for {train} training steps, got {given}"
  | timestepOffSchedule timestep => s!"timestep {timestep} is not part of the schedule"
  | shapeMismatch operation left right =>
    operation ++ ": shape " ++ left.text ++ " does not match " ++ right.text
  | noTerms => "weighted_sum needs at least one term"
  | stackTooLarge => "concat failed: ShapeError/Overflow: arithmetic overflow"
  | unsplittable shape => "cannot split batch of shape " ++ shape.text ++ " into halves"
  | unsliceable shape => "cannot slice batch of shape " ++ shape.text
  | emptyBatch => "batch size must be at least 1"
  | badExtent name given => s!"{name} must be a positive multiple of 8, got {given}"
  | emptyEmbedding => "embedding dimension must be positive"
  | badLatents shape => "latents must have shape (B, 4, H/8, W/8), got " ++ shape.text
  | badConditioning rows shape =>
    s!"conditioning must have shape ({rows}, 77, E), got " ++ shape.text
  | inputCount expected given => s!"program takes {expected} inputs, got {given}"
  | inputShape name expected given =>
    "input '" ++ name ++ "' expects shape " ++ expected.text ++ ", got " ++ given.text
  | inputTooLarge name => "input '" ++ name ++ "': ShapeError/Overflow: arithmetic overflow"
  | referenceInputs given => s!"reference run needs 2 inputs, program has {given}"
  | lateInput name => "input '" ++ name ++ "' declared after the first operation"
  | invalidTrace cause => cause.code.lead ++ cause.reason
  | useBeforeDefinition value operand => s!"%{value} uses %{operand} before it is defined"
  | declaredShape value mnemonic declared implied =>
    s!"%{value} ({mnemonic}) declares shape " ++ declared.text ++ ", operands imply " ++
      implied.text
  | undefinedValue value => s!"%{value} is not defined"
  | undefinedOutput value => s!"output %{value} is not defined"
  | noNetwork => "no denoising network bound"
  | networkShape returned sample =>
    "network returned shape " ++ returned.text ++ " for sample " ++ sample.text
  | networkFailed reason => reason
  | valueMissing value => s!"%{value} has no value"
  | producedShape value produced expected =>
    s!"%{value} produced shape " ++ produced.text ++ ", expected " ++ expected.text
  | outputMissing => "program output was not computed"
  | allocationLimit peak limit =>
    s!"Program needs {peak} bytes of live buffers, ceiling is {limit} bytes"
  | archiveUnwritable path fault =>
    "failed to write external weights " ++ path ++ ": " ++ fault.structured
  | artifactUnreadable path fault => "Failed to read artifact " ++ path ++ ": " ++ fault.text
  | archiveUnreadable path fault =>
    "Failed to read external weights " ++ path ++ ": " ++ fault.text
  | notAnArtifact fault => "not an artifact: " ++ fault.text
  | notAnArchive path fault => path ++ " is not a weights archive: " ++ fault.text
  | noMetadata => "artifact has no metadata"
  | missingField key => "missing '" ++ key ++ "' metadata"
  | unsupportedFormat found expected =>
    "unsupported format '" ++ found ++ "' (expected '" ++ expected ++ "')"
  | malformedProgram detail => "failed to parse program: " ++ detail
  | malformedField field detail => "malformed " ++ field ++ ": " ++ detail
  | malformedPeak => "malformed peak_bytes"
  | invalidProgram cause => cause.code.lead ++ cause.reason
  | unknownWeightsMode => "unknown weights mode"
  | unexpectedKey key => "unexpected parameter key '" ++ key ++ "'"
  | parameterNotFound storageName fault =>
    "parameter '" ++ storageName ++ "' not found: " ++ fault.text
  | parameterSize key found expected =>
    "parameter '" ++ key ++ s!"' has {found} bytes, expected {expected}"
  | fingerprintMismatch key expected found =>
    "parameter '" ++ key ++ s!"' fingerprint mismatch (expected {expected}, got {found})"
  | refusedKey key => "refusing to write parameter '" ++ key ++ "'"
  | noWeightPath => "artifact was compiled with external weights but no weight path was given"
  | deviceMismatch compiledFor requested =>
    "Artifact compiled for '" ++ compiledFor ++ "' cannot run on '" ++ requested ++ "'"
  | graphMissing path => path ++ " does not exist"
  | modelFilesMissing directory files =>
    "Missing model files in " ++ directory ++ ": " ++ ", ".intercalate files
  | inferenceUnavailable path => "no inference session for " ++ path
  | downloadDirectory path fault => "Failed to create directory " ++ path ++ ": " ++ fault.text
  | requestRefused url => "Failed to download " ++ url ++ ": builder error"
  | transferUnavailable url => "Failed to download " ++ url ++ ": no network access"
  | parityExceeded error tolerance =>
    s!"Largest absolute error {error} is not below tolerance {tolerance}"
  | noContainer => "SD_AOT_BLOB_URL is not set"
  | uploadRefused blob url =>
    "PUT " ++ blob ++ " failed: builder error" ++
      (match url with
        | some url => " for url (" ++ url ++ ")"
        | none => "")
  | uploadUnavailable blob => "PUT " ++ blob ++ " failed: no network access"
  | file action path fault => "Failed to " ++ action ++ " " ++ path ++ ": " ++ fault.text
  | ioContext context fault => context ++ ": " ++ fault.text
  | environment problem => "Invalid environment configuration: " ++ problem
  | stated _ reason => reason
  | verbatim _ message => message

def message : Error → String
  | verbatim _ message => message
  | artifactUnreadable path fault => (artifactUnreadable path fault).reason
  | archiveUnreadable path fault => (archiveUnreadable path fault).reason
  | e => e.code.lead ++ e.reason

/-- The text of the cause outside the program, where there is one. -/
def source? : Error → Option String
  | artifactUnreadable _ fault | archiveUnreadable _ fault | file _ _ fault
  | ioContext _ fault => some fault.text
  | _ => none

/-- The line that reports an error to a person. -/
def display (e : Error) : String :=
  "[" ++ e.code.text ++ "] " ++ e.message ++ ". Recovery: " ++ e.code.hint

end Error

/-- How a call ends without a value. -/
inductive Halt where
  /-- A failure that is reported. -/
  | error (e : Error)
  /-- An index past the end of a table. -/
  | indexOutOfRange
  /-- A count or an id that leaves its word. -/
  | overflow
  /-- Two tensors of a container with one name. -/
  | nameClash
deriving Repr

namespace Halt

def fail {α : Type} (e : Error) : Except Halt α := .error (.error e)

/-- A result whose error ends the call. -/
def ofResult {α : Type} (r : Except Error α) : Except Halt α := r.mapError .error

/-- Replaces the error of a result and leaves every other end alone. -/
def mapError {α : Type} (f : Error → Error) : Except Halt α → Except Halt α
  | .error (.error e) => .error (.error (f e))
  | r => r

/-- Counts and ids fit in 64 bits. -/
def wordLimit : Nat := UInt64.size

/-- A count that must fit in 64 bits. -/
def checked (n : Nat) : Except Halt Nat :=
  if n < wordLimit then .ok n else .error .overflow

/-- An entry of a table. -/
def entry {α : Type} (table : Array α) (i : Nat) : Except Halt α :=
  match table[i]? with
  | some x => .ok x
  | none => .error .indexOutOfRange

end Halt

end Diffusion
