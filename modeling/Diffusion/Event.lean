import Diffusion.Scheduler.Id
import Diffusion.Shape
import Diffusion.Text.Quoted

/-!
What is worth a line in the log.
-/

namespace Diffusion

/-- How much a log line matters. -/
inductive LogLevel where
  | warn
  | info
  | debug
deriving DecidableEq, Repr

def LogLevel.text : LogLevel → String
  | warn => " WARN"
  | info => " INFO"
  | debug => "DEBUG"

/-- What happened. Numbers that are not whole come as text. -/
inductive Event where
  | stepMade (step total : Nat) (timestep : String)
  | tracing (scheduler : SchedulerId) (steps : Nat) (latent : Shape)
  | stepTraced (step total : Nat)
  | traced (instructions calls : Nat)
  | lowered (before after : Nat)
  | built (scheduler : SchedulerId) (stage : String) (instructions : Nat)
  | peakComputed (peak limit : Nat)
  | compiled (device : String) (instructions calls : Nat) (weights : String)
  | artifactWritten (path : String) (bytes : Nat)
  | archiveWritten (path : String) (bytes : Nat)
  | blobLoaded (key : String) (bytes : Nat)
  | artifactLoaded (path device weights : String) (calls : Nat)
  | parametersUnpacked (directory : String)
  | modelPresent (directory : String)
  | downloading (model directory : String)
  | referenceStep (step total : Nat)
  | compared (error tolerance : String)
  | containerUnset
deriving Repr

namespace Event

def level : Event → LogLevel
  | containerUnset => .warn
  | tracing .. | built .. | compiled .. | artifactWritten .. | archiveWritten ..
  | artifactLoaded .. | downloading .. | compared .. => .info
  | _ => .debug

/-- The part of the program that an event comes from. -/
def part : Event → String
  | stepMade .. => "sampling"
  | tracing .. | stepTraced .. | traced .. => "trace"
  | lowered .. => "ir::lower"
  | built .. | containerUnset => "export"
  | peakComputed .. | compiled .. | artifactWritten .. => "compiler"
  | archiveWritten .. | blobLoaded .. => "weights"
  | artifactLoaded .. | parametersUnpacked _ => "runtime"
  | modelPresent _ | downloading .. => "models::downloader"
  | referenceStep .. | compared .. => "runner"

/-- What an event says, with its details. -/
def message : Event → String
  | stepMade step total timestep =>
    s!"denoising step step={step} total={total} timestep={timestep}"
  | tracing scheduler steps latent =>
    s!"Tracing sampling loop scheduler={scheduler.text} steps={steps} latent={latent.text}"
  | stepTraced step total => s!"traced step {step}/{total}"
  | traced instructions calls =>
    s!"Trace complete instructions={instructions} unet_calls={calls}"
  | lowered before after => s!"Lowered program before={before} after={after}"
  | built scheduler stage instructions =>
    s!"Built program scheduler={scheduler.text} stochastic={scheduler.isStochastic}" ++
      " stage=" ++ Text.quoted stage ++ s!" instructions={instructions}"
  | peakComputed peak limit =>
    s!"Computed peak live-buffer size peak_bytes={peak} limit={limit}"
  | compiled device instructions calls weights =>
    s!"Compiled artifact device={device} instructions={instructions} unet_calls={calls}" ++
      " weights=" ++ Text.quoted weights
  | artifactWritten path bytes => "Wrote artifact path=" ++ path ++ s!" bytes={bytes}"
  | archiveWritten path bytes => "Wrote external weights path=" ++ path ++ s!" bytes={bytes}"
  | blobLoaded key bytes =>
    "Loaded parameter blob key=" ++ Text.quoted key ++ s!" bytes={bytes}"
  | artifactLoaded path device weights calls =>
    "Loaded artifact path=" ++ path ++ " device=" ++ device ++ " weights=" ++
      Text.quoted weights ++ s!" unet_calls={calls}"
  | parametersUnpacked directory => "Materialized network parameters dir=" ++ directory
  | modelPresent directory => "UNet files present dir=" ++ directory
  | downloading model directory =>
    "Downloading UNet (this may take several minutes) model=" ++ model ++ " dir=" ++ directory
  | referenceStep step total => s!"reference step {step}/{total}"
  | compared error tolerance =>
    s!"Compared against eager execution error={error} tolerance={tolerance}"
  | containerUnset => "--upload-ir given but SD_AOT_BLOB_URL is not set"

def line (e : Event) : String :=
  e.level.text ++ " sd_scheduler_aot::" ++ e.part ++ ": " ++ e.message

/-- The lines that an event takes in a log that is read line by line: a line break in a detail ends
a line, with or without a carriage return before it. -/
def lines (e : Event) : List String :=
  (e.line.splitOn "\n").map fun piece =>
    if piece.endsWith "\r" then String.ofList piece.toList.dropLast else piece

end Event

end Diffusion
