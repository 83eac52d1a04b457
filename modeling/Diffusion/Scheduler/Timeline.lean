import Diffusion.Backend
import Diffusion.Schedule

/-!
The timesteps of one sampling pass, and what schedulers that work with cumulative alphas share.
-/

namespace Diffusion

/-- A schedule with the timesteps of a pass and the distance between them. -/
structure Timeline (A : Arithmetic) where
  schedule : NoiseSchedule A
  timesteps : List A.Elem
  ratio : Nat

namespace Timeline

variable {A : Arithmetic}

def unplanned (schedule : NoiseSchedule A) : Timeline A where
  schedule
  timesteps := []
  ratio := 0

def plan (line : Timeline A) (steps : Nat) : Except Halt (Timeline A) := do
  let timesteps ← line.schedule.leadingTimesteps steps
  return { line with timesteps, ratio := line.schedule.stepRatio steps }

/-- The training timestep one step after a given one. It must be a signed word. -/
def next (line : Timeline A) (timestep : Int) : Except Halt Int :=
  let earlier := timestep - line.ratio
  if -0x8000000000000000 ≤ earlier then .ok earlier else .error .overflow

end Timeline

/-- The noise seed of one step of a pass, in wrapping arithmetic. -/
def stepSeed (seed : UInt64) (index : Nat) : UInt64 :=
  seed * 0x9E3779B97F4A7C15 + (UInt64.ofNat index + 1)

variable {A : Arithmetic} {σ τ : Type} (B : Backend A σ τ)

/-- The clean sample and the noise that an output of the network stands for, at a cumulative
alpha. -/
def cleanAndNoise (predicts : PredictionType) (alpha : A.Wide) (output sample : τ) :
    Action σ (τ × τ) := do
  let rootAlpha := A.sqrt alpha
  let rootBeta := A.sqrt (1 - alpha)
  match predicts with
  | .epsilon =>
    let clean ← B.weightedSum
      [(A.narrow (1 / rootAlpha), sample), (A.narrow (-rootBeta / rootAlpha), output)]
    return (clean, output)
  | .vPrediction =>
    let clean ← B.weightedSum [(A.narrow rootAlpha, sample), (A.narrow (-rootBeta), output)]
    let noise ← B.weightedSum [(A.narrow rootAlpha, output), (A.narrow rootBeta, sample)]
    return (clean, noise)

end Diffusion
