import Diffusion.Scheduler.SigmaTrack

/-!
Euler's method over sigmas: the plain one, and the ancestral one that steps further down and adds
fresh noise.
-/

namespace Diffusion

variable {A : Arithmetic} {σ τ : Type}

/-- Euler's method. Its state is the pass alone. -/
structure Euler (A : Arithmetic) where
  track : SigmaTrack A

namespace Euler

def unplanned (schedule : NoiseSchedule A) : Euler A := ⟨.unplanned schedule⟩

def plan (s : Euler A) (steps : Nat) : Except Halt (Euler A) := do
  return ⟨← s.track.plan steps⟩

/-- Follows the derivative from the sigma at a place to the next one. -/
def advance (B : Backend A σ τ) (s : SigmaTrack A) (i : Nat) (output sample : τ) :
    Action σ τ := do
  let sigma ← Action.ofExcept (s.sigma i)
  let sigmaNext ← Action.ofExcept (s.sigma (i + 1))
  let derivative ← s.derivative B sigma output sample
  B.weightedSum [(1, sample), (A.narrow (sigmaNext - sigma), derivative)]

def step (B : Backend A σ τ) (output : τ) (timestep : A.Elem) (sample : τ) :
    Action (σ × SigmaTrack A) τ := do
  let i ← Action.onSecond (SigmaTrack.locate timestep)
  let s ← Action.onSecond get
  let previous ← Action.onFirst (advance B s i output sample)
  Action.onSecond (set s.moved)
  return previous

end Euler

/-- Euler's method with fresh noise at every step. -/
structure EulerAncestral (A : Arithmetic) where
  track : SigmaTrack A
  seed : UInt64

namespace EulerAncestral

def unplanned (schedule : NoiseSchedule A) (seed : UInt64) : EulerAncestral A :=
  ⟨.unplanned schedule, seed⟩

def plan (s : EulerAncestral A) (steps : Nat) : Except Halt (EulerAncestral A) := do
  return { s with track := ← s.track.plan steps }

/-- Splits the way from one sigma to the next into fresh noise and a lower sigma to step to. -/
def splitSigma (start stop : A.Wide) : A.Wide × A.Wide :=
  let upSquare := stop * stop * (start * start - stop * stop) / (start * start)
  let up := A.sqrt (A.wideMax upSquare 0)
  (up, A.sqrt (A.wideMax (stop * stop - up * up) 0))

/-- Follows the derivative from the sigma at a place to the lower one, then adds the noise of that
place. -/
def advance (B : Backend A σ τ) (seed : UInt64) (s : SigmaTrack A) (i : Nat)
    (output sample : τ) : Action σ τ := do
  let sigma ← Action.ofExcept (s.sigma i)
  let sigmaNext ← Action.ofExcept (s.sigma (i + 1))
  let (up, down) := splitSigma sigma sigmaNext
  let derivative ← s.derivative B sigma output sample
  let lowered ← B.weightedSum [(1, sample), (A.narrow (down - sigma), derivative)]
  if A.isPositive up then
    let noise ← B.noise sample (stepSeed seed i)
    let scaled ← B.scale noise (A.narrow up)
    B.add lowered scaled
  else
    return lowered

def step (B : Backend A σ τ) (seed : UInt64) (output : τ) (timestep : A.Elem) (sample : τ) :
    Action (σ × SigmaTrack A) τ := do
  let i ← Action.onSecond (SigmaTrack.locate timestep)
  let s ← Action.onSecond get
  let previous ← Action.onFirst (advance B seed s i output sample)
  Action.onSecond (set s.moved)
  return previous

end EulerAncestral

end Diffusion
