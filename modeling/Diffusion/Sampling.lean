import Diffusion.Event
import Diffusion.Scheduler

/-!
Sampling with classifier-free guidance: the loop that is run for a result and traced for a program.

Every timestep is visited once. The network sees the sample twice, with unconditional and with
conditional conditioning, and its two answers are combined before the scheduler steps.
-/

namespace Diffusion

/-- The sizes of the inputs of a loop. -/
structure InputShapes where
  batch : Nat
  height : Nat
  width : Nat
  embedding : Nat
deriving DecidableEq, Repr

namespace InputShapes

/-- Channels of a latent image. -/
def latentChannels : Nat := 4

/-- How many pixels one place of a latent image stands for, along each axis. -/
def pixelsPerPlace : Nat := 8

/-- The length of a tokenised prompt. -/
def promptLength : Nat := 77

/-- Images of whole places: a positive multiple of the pixels of one. -/
def checkExtent (name : String) (extent : Nat) : Except Error Unit :=
  if extent = 0 ∨ extent % pixelsPerPlace ≠ 0 then .error (.badExtent name extent) else .ok ()

/-- Sizes that pass all checks, made in this order. -/
def check (batch height width embedding : Nat) : Except Error InputShapes := do
  if batch = 0 then throw .emptyBatch
  checkExtent "height" height
  checkExtent "width" width
  if embedding = 0 then throw .emptyEmbedding
  return { batch, height, width, embedding }

variable (s : InputShapes)

def latent : Shape :=
  [s.batch, latentChannels, s.height / pixelsPerPlace, s.width / pixelsPerPlace]

/-- The shape of the conditioning: unconditional rows first, then conditional ones. The rows are
counted in a word. -/
def conditioning : Except Halt Shape := do
  return [← Halt.checked (2 * s.batch), promptLength, s.embedding]

end InputShapes

namespace Sampling

variable {A : Arithmetic} {σ τ : Type}

/-- The guidance scale where none is given. -/
def defaultGuidance (A : Arithmetic) : A.Elem := A.narrow 7.5

/-- The inputs of a loop must have matching shapes. -/
def checkShapes (latents conditioning : Shape) : Except Halt Unit := do
  match latents with
  | [batch, channels, _, _] =>
    if channels ≠ InputShapes.latentChannels then Halt.fail (.badLatents latents)
    else
      let rows ← Halt.checked (2 * batch)
      match conditioning with
      | [given, _, _] =>
        if given = rows then return () else Halt.fail (.badConditioning rows conditioning)
      | _ => Halt.fail (.badConditioning rows conditioning)
  | _ => Halt.fail (.badLatents latents)

/-- The guided prediction of the network for latents at a timestep. -/
def predictGuided (B : Backend A σ τ) (guidance : A.Elem) (conditioning latents : τ)
    (timestep : A.Elem) : Action (σ × Scheduler A τ) τ := do
  let doubled ← Action.onFirst (B.concat latents latents)
  let input ← Scheduler.scaleInput B doubled timestep
  let prediction ← Action.onFirst (B.predict input timestep conditioning)
  let (unconditional, conditional) ← Action.onFirst (B.split prediction)
  Action.onFirst (B.guide unconditional conditional guidance)

/-- Carries latents over one timestep. -/
def denoise (B : Backend A σ τ) (guidance : A.Elem) (conditioning latents : τ)
    (timestep : A.Elem) : Action (σ × Scheduler A τ) τ := do
  let guided ← predictGuided B guidance conditioning latents timestep
  Scheduler.step B guided timestep latents

/-- Carries latents over timesteps in order. The last part of the state counts the timesteps
completed. -/
def denoiseAll (B : Backend A σ τ) (guidance : A.Elem) (conditioning : τ) :
    List A.Elem → τ → Action ((σ × Scheduler A τ) × Nat) τ
  | [], latents => pure latents
  | timestep :: rest, latents => do
    let latents ← Action.onFirst (denoise B guidance conditioning latents timestep)
    Action.onSecond (modify (· + 1))
    denoiseAll B guidance conditioning rest latents

/-- The whole loop, on a scheduler with a planned pass. -/
def run (B : Backend A σ τ) (guidance : A.Elem) (latents conditioning : τ) :
    Action ((σ × Scheduler A τ) × Nat) τ := do
  let scheduler := (← get).1.2
  if scheduler.timesteps.isEmpty then Action.fail (.noTimesteps "(no timesteps set)")
  else
    Action.ofExcept (checkShapes (B.shape latents) (B.shape conditioning))
    let noisy ← Action.onFirst (Action.onFirst (B.scale latents scheduler.initialDeviation))
    denoiseAll B guidance conditioning scheduler.timesteps noisy

/-- How a loop ended: its answer, the states it left, and how many timesteps it completed. -/
structure Outcome (A : Arithmetic) (σ τ : Type) where
  answer : Except Halt τ
  backend : σ
  scheduler : Scheduler A τ
  completed : Nat

/-- Runs the loop on a backend state and a scheduler. -/
def outcome (B : Backend A σ τ) (guidance : A.Elem) (latents conditioning : τ) (backend : σ)
    (scheduler : Scheduler A τ) : Outcome A σ τ :=
  let (answer, (backend, scheduler), completed) :=
    (run B guidance latents conditioning).runOn ((backend, scheduler), 0)
  { answer, backend, scheduler, completed }

/-- The events of a loop over timesteps that completed some of them; `report` adds the caller's
own to each. -/
def events (timesteps : List A.Elem) (completed : Nat) (report : Nat → Nat → List Event) :
    List Event :=
  let total := timesteps.length
  ((timesteps.take completed).zipIdx 1).flatMap fun (timestep, step) =>
    .stepMade step total (A.text.logged timestep) :: report step total

end Sampling

end Diffusion
