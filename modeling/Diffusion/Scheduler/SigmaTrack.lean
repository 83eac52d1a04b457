import Diffusion.Scheduler.Timeline

/-!
What the methods over noise levels share: a sigma for every timestep, and the place of the pass in
them.

The place is found from the timestep at its first use and kept from then on, so a pass may start
in the middle; each step that succeeds moves it by one.
-/

namespace Diffusion

/-- The sigmas of a pass. After the last timestep the sigma is zero. -/
structure SigmaTrack (A : Arithmetic) where
  schedule : NoiseSchedule A
  timesteps : List A.Elem
  sigmas : Array A.Wide
  place : Option Nat

namespace SigmaTrack

variable {A : Arithmetic} {σ τ : Type}

def unplanned (schedule : NoiseSchedule A) : SigmaTrack A where
  schedule
  timesteps := []
  sigmas := #[]
  place := none

def plan (s : SigmaTrack A) (steps : Nat) : Except Halt (SigmaTrack A) := do
  let timesteps ← s.schedule.leadingTimesteps steps
  let sigmas := timesteps.map fun t => s.schedule.sigmaAt (A.truncate t).toNat
  return { s with timesteps, sigmas := sigmas.toArray.push 0, place := none }

/-- The largest deviation `sqrt (sigma ^ 2 + 1)` of a noisy sample. -/
def initialDeviation (s : SigmaTrack A) : A.Elem :=
  let largest := s.sigmas.foldl A.wideMax 0
  A.narrow (A.sqrt (largest * largest + 1))

/-- The place of the pass, found from a timestep if it is not known yet. -/
def locate (timestep : A.Elem) : Action (SigmaTrack A) Nat := do
  let s ← get
  match s.place with
  | some i => return i
  | none =>
    let i ← Action.ofExcept (indexForTimestep s.timesteps timestep)
    set { s with place := some i }
    return i

def moved (s : SigmaTrack A) : SigmaTrack A := { s with place := s.place.map (· + 1) }

def sigma (s : SigmaTrack A) (i : Nat) : Except Halt A.Wide := Halt.entry s.sigmas i

/-- Divides a sample by its deviation `sqrt (sigma ^ 2 + 1)`. -/
def scaleInput (B : Backend A σ τ) (sample : τ) (timestep : A.Elem) :
    Action (σ × SigmaTrack A) τ := do
  let i ← Action.onSecond (locate timestep)
  let s ← Action.onSecond get
  let sigma ← Action.ofExcept (s.sigma i)
  Action.onFirst (B.scale sample (A.narrow (1 / A.sqrt (sigma * sigma + 1))))

/-- The clean sample that an output of the network stands for, at a sigma. -/
def cleanSample (B : Backend A σ τ) (predicts : PredictionType) (sigma : A.Wide)
    (output sample : τ) : Action σ τ :=
  match predicts with
  | .epsilon => B.weightedSum [(1, sample), (A.narrow (-sigma), output)]
  | .vPrediction =>
    let square := sigma * sigma + 1
    B.weightedSum
      [(A.narrow (-sigma / A.sqrt square), output), (A.narrow (1 / square), sample)]

/-- The derivative of the sample by sigma: its distance from the clean sample over sigma. -/
def derivative (B : Backend A σ τ) (s : SigmaTrack A) (sigma : A.Wide) (output sample : τ) :
    Action σ τ := do
  let clean ← cleanSample B s.schedule.config.predictionType sigma output sample
  let distance ← B.sub sample clean
  B.scale distance (A.narrow (1 / sigma))

end SigmaTrack

end Diffusion
