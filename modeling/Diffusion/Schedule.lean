import Diffusion.Arithmetic
import Diffusion.Error

/-!
Noise schedules: how much noise a sample carries at every training timestep, and the timesteps at
which a sampler visits it.
-/

namespace Diffusion

/-- What the network was trained to predict. -/
inductive PredictionType where
  /-- The noise in the sample. -/
  | epsilon
  /-- The velocity `sqrt a * noise - sqrt (1 - a) * clean`. -/
  | vPrediction
deriving DecidableEq, Repr

/-- How betas are spread over the training timesteps. -/
inductive BetaSpacing where
  | linear
  /-- Squares of evenly spread square roots. -/
  | scaledLinear
deriving DecidableEq, Repr

/-- The training configuration that all schedulers share. -/
structure ScheduleConfig (A : Arithmetic) where
  numTrainTimesteps : Nat
  betaStart : A.Wide
  betaEnd : A.Wide
  betaSpacing : BetaSpacing
  /-- Added to every inference timestep. -/
  stepsOffset : Nat
  /-- Past the last step the sample counts as free of noise, not as at the first timestep. -/
  setAlphaToOne : Bool
  predictionType : PredictionType

/-- The configuration of Stable Diffusion models. -/
def ScheduleConfig.stableDiffusion (A : Arithmetic) (predictionType : PredictionType) :
    ScheduleConfig A where
  numTrainTimesteps := 1000
  betaStart := 0.00085
  betaEnd := 0.012
  betaSpacing := .scaledLinear
  stepsOffset := 1
  setAlphaToOne := false
  predictionType := predictionType

/-- Evenly spread numbers; a single one is the start. -/
def linspace (A : Arithmetic) (start stop : A.Wide) (n : Nat) : Array A.Wide :=
  if n = 1 then #[start]
  else
    let step := (stop - start) / A.wideOfNat (n - 1)
    (Array.range n).map fun i => start + step * A.wideOfNat i

@[simp] theorem size_linspace (A : Arithmetic) (start stop : A.Wide) (n : Nat) :
    (linspace A start stop n).size = n := by
  unfold linspace
  split
  · rename_i single
    simp [single]
  · simp

/-- Appends the products of all leading parts of a row of factors, each times a product so far. -/
def productsOnto {A : Arithmetic} (done : Array A.Wide) (product : A.Wide) :
    List A.Wide → Array A.Wide
  | [] => done
  | factor :: rest => productsOnto (done.push (product * factor)) (product * factor) rest

theorem size_productsOnto {A : Arithmetic} (done : Array A.Wide) (product : A.Wide)
    (factors : List A.Wide) :
    (productsOnto done product factors).size = done.size + factors.length := by
  induction factors generalizing done product with
  | nil => rfl
  | cons factor rest ih =>
      rw [productsOnto, ih, Array.size_push, List.length_cons]
      omega

/-- The products of all leading parts of a row of factors. -/
def runningProducts {A : Arithmetic} (factors : Array A.Wide) : Array A.Wide :=
  productsOnto #[] 1 factors.toList

theorem size_runningProducts {A : Arithmetic} (factors : Array A.Wide) :
    (runningProducts factors).size = factors.size := by
  simp [runningProducts, size_productsOnto]

/-- A configuration with the tables computed from it. A schedule has at least one training
timestep. -/
structure NoiseSchedule (A : Arithmetic) where
  config : ScheduleConfig A
  betas : Array A.Wide
  /-- For each training timestep the product of `1 - beta` up to it: the share of the clean sample
  that is left. -/
  alphasCumprod : Array A.Wide
  nonempty : 0 < alphasCumprod.size

namespace NoiseSchedule

variable {A : Arithmetic}

/-- The betas of a configuration. -/
def betasOf (config : ScheduleConfig A) : Array A.Wide :=
  match config.betaSpacing with
  | .linear => linspace A config.betaStart config.betaEnd config.numTrainTimesteps
  | .scaledLinear =>
    (linspace A (A.sqrt config.betaStart) (A.sqrt config.betaEnd) config.numTrainTimesteps).map
      fun root => root * root

@[simp] theorem size_betasOf (config : ScheduleConfig A) :
    (betasOf config).size = config.numTrainTimesteps := by
  unfold betasOf
  split <;> simp

/-- A table has fewer entries than this: eight bytes each, counted in a signed word. -/
def tableLimit : Nat := UInt64.size / 16

/-- Computes the tables of a configuration. Betas can be spread neither over no timestep at all nor
over more than a table has room for. -/
def ofConfig (config : ScheduleConfig A) : Except Halt (NoiseSchedule A) :=
  if h : config.numTrainTimesteps = 0 then .error .overflow
  else if tableLimit ≤ config.numTrainTimesteps then .error .overflow
  else
    let betas := betasOf config
    .ok
      { config, betas
        alphasCumprod := runningProducts (betas.map fun beta => 1 - beta)
        nonempty := by
          rw [size_runningProducts, Array.size_map, size_betasOf]
          exact Nat.pos_of_ne_zero h }

variable (s : NoiseSchedule A)

/-- A table entry, the last one standing for all beyond it. -/
def clampedAlpha (timestep : Nat) : A.Wide :=
  have inside : min timestep (s.alphasCumprod.size - 1) < s.alphasCumprod.size := by
    have := s.nonempty
    omega
  s.alphasCumprod[min timestep (s.alphasCumprod.size - 1)]

/-- The cumulative alpha at a training timestep; before the first it is the given final one. -/
def alphaProd (timestep : Int) (final : A.Wide) : A.Wide :=
  if timestep < 0 then final else s.clampedAlpha timestep.toNat

/-- The cumulative alpha past the last inference step. -/
def finalAlpha : A.Wide :=
  if s.config.setAlphaToOne then 1 else s.clampedAlpha 0

/-- The distance between inference timesteps. -/
def stepRatio (steps : Nat) : Nat := s.config.numTrainTimesteps / max steps 1

/-- Inference timesteps a step ratio apart, largest first, each moved up by the offset. The
largest must stay inside the training range. -/
def leadingTimesteps (steps : Nat) : Except Halt (List A.Elem) := do
  let train := s.config.numTrainTimesteps
  let offset := s.config.stepsOffset
  if steps = 0 then Halt.fail .noInferenceSteps
  else
    let ratio := s.stepRatio steps
    if ratio = 0 then Halt.fail (.tooManySteps (train - offset) train steps)
    else
      let top ← Halt.checked ((steps - 1) * ratio + offset)
      if train ≤ top then Halt.fail (.tooManySteps (train - offset) train steps)
      else return (List.range steps).reverse.map fun i => A.elemOfNat (i * ratio + offset)

/-- The noise level `sqrt ((1 - a) / a)` at a training timestep. -/
def sigmaAt (timestep : Nat) : A.Wide :=
  A.sqrt ((1 - s.clampedAlpha timestep) / s.clampedAlpha timestep)

end NoiseSchedule

/-- The position of a timestep in a schedule. -/
def indexForTimestep {A : Arithmetic} (timesteps : List A.Elem) (timestep : A.Elem) :
    Except Halt Nat :=
  match timesteps.findIdx? (fun t => A.same t timestep) with
  | some i => .ok i
  | none => Halt.fail (.timestepOffSchedule (A.text.plain timestep))

end Diffusion
