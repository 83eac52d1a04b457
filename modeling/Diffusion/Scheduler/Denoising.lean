import Diffusion.Scheduler.Timeline

/-!
The two methods that go through the predicted clean sample: the implicit one, which adds the
predicted noise back, and the probabilistic one, which samples the posterior with fresh noise.
-/

namespace Diffusion

variable {A : Arithmetic} {σ τ : Type}

/-- The implicit method, without randomness. Its state is the pass alone. -/
structure Ddim (A : Arithmetic) where
  line : Timeline A

namespace Ddim

def unplanned (schedule : NoiseSchedule A) : Ddim A := ⟨.unplanned schedule⟩

def plan (s : Ddim A) (steps : Nat) : Except Halt (Ddim A) := do
  return ⟨← s.line.plan steps⟩

/-- Carries a sample to the next timestep by an output of the network. -/
def advance (B : Backend A σ τ) (s : Ddim A) (output : τ) (timestep : A.Elem) (sample : τ) :
    Action σ τ := do
  let t := A.truncate timestep
  let next ← Action.ofExcept (s.line.next t)
  let final := s.line.schedule.finalAlpha
  let alpha := s.line.schedule.alphaProd t final
  let alphaNext := s.line.schedule.alphaProd next final
  let (clean, noise) ←
    cleanAndNoise B s.line.schedule.config.predictionType alpha output sample
  B.weightedSum [(A.narrow (A.sqrt alphaNext), clean), (A.narrow (A.sqrt (1 - alphaNext)), noise)]

def step (B : Backend A σ τ) (output : τ) (timestep : A.Elem) (sample : τ) :
    Action (σ × Ddim A) τ := do
  let s ← Action.onSecond get
  Action.onFirst (s.advance B output timestep sample)

end Ddim

/-- The probabilistic method, with the number of steps made in the pass. -/
structure Ddpm (A : Arithmetic) where
  line : Timeline A
  seed : UInt64
  steps : Nat

namespace Ddpm

def unplanned (schedule : NoiseSchedule A) (seed : UInt64) : Ddpm A :=
  ⟨.unplanned schedule, seed, 0⟩

def plan (s : Ddpm A) (steps : Nat) : Except Halt (Ddpm A) := do
  return { s with line := ← s.line.plan steps, steps := 0 }

/-- The variance of the posterior between two cumulative alphas, kept away from zero. -/
def variance (alpha next : A.Wide) : A.Wide :=
  A.wideMax ((1 - next) / (1 - alpha) * (1 - alpha / next)) 1e-20

def addNoise (B : Backend A σ τ) (seed : UInt64) (deviation : A.Elem) (mean sample : τ) :
    Action σ τ := do
  let noise ← B.noise sample seed
  let scaled ← B.scale noise deviation
  B.add mean scaled

/-- Carries a sample to the next timestep by an output of the network. No noise is added at
training timestep 0 and before it. -/
def advance (B : Backend A σ τ) (s : Ddpm A) (output : τ) (timestep : A.Elem) (sample : τ) :
    Action σ τ := do
  let t := A.truncate timestep
  let next ← Action.ofExcept (s.line.next t)
  let alpha := s.line.schedule.alphaProd t 1
  let alphaNext := s.line.schedule.alphaProd next 1
  let current := alpha / alphaNext
  let (clean, _) ← cleanAndNoise B s.line.schedule.config.predictionType alpha output sample
  let cleanWeight := A.sqrt alphaNext * (1 - current) / (1 - alpha)
  let sampleWeight := A.sqrt current * (1 - alphaNext) / (1 - alpha)
  let mean ← B.weightedSum [(A.narrow cleanWeight, clean), (A.narrow sampleWeight, sample)]
  if 0 < t then
    addNoise B (stepSeed s.seed s.steps) (A.narrow (A.sqrt (variance alpha alphaNext))) mean sample
  else
    return mean

/-- One step of a pass. Only a step that succeeds is counted. -/
def step (B : Backend A σ τ) (output : τ) (timestep : A.Elem) (sample : τ) :
    Action (σ × Ddpm A) τ := do
  let s ← Action.onSecond get
  let previous ← Action.onFirst (s.advance B output timestep sample)
  Action.onSecond (set { s with steps := s.steps + 1 })
  return previous

end Ddpm

end Diffusion
