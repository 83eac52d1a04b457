import Diffusion.Scheduler.Timeline

/-!
The pseudo numerical method in its linear multistep form.

The last four outputs of the network are combined with Adams-Bashforth weights, then the sample is
carried from one cumulative alpha to the next. An output counts as soon as it is given, whether or
not the step that brought it succeeds.
-/

namespace Diffusion

/-- A pass with the outputs it remembers, newest first. -/
structure Pndm (A : Arithmetic) (τ : Type) where
  line : Timeline A
  outputs : List τ

namespace Pndm

variable {A : Arithmetic} {σ τ : Type}

/-- How many outputs are remembered. -/
def memory : Nat := 4

def unplanned (schedule : NoiseSchedule A) : Pndm A τ := ⟨.unplanned schedule, []⟩

/-- Plans a pass and forgets the outputs of the last one. -/
def plan (s : Pndm A τ) (steps : Nat) : Except Halt (Pndm A τ) := do
  return ⟨← s.line.plan steps, []⟩

/-- Remembers an output in place of the oldest. -/
def remember (s : Pndm A τ) (output : τ) : Pndm A τ :=
  { s with outputs := (output :: s.outputs).take memory }

/-- The Adams-Bashforth weights for a number of outputs, newest first. -/
def weights (A : Arithmetic) : Nat → List A.Elem
  | 0 | 1 => [1]
  | 2 => [3 / 2, -1 / 2]
  | 3 => [23 / 12, -16 / 12, 5 / 12]
  | _ => [55 / 24, -59 / 24, 37 / 24, -9 / 24]

/-- The weighted outputs. A single one stands for itself. -/
def combined (B : Backend A σ τ) : List τ → Action σ τ
  | [output] => pure output
  | outputs => B.weightedSum ((weights A outputs.length).zip outputs)

/-- The noise that combined outputs stand for, at a cumulative alpha. -/
def noiseOf (B : Backend A σ τ) (predicts : PredictionType) (alpha : A.Wide) (output sample : τ) :
    Action σ τ :=
  match predicts with
  | .epsilon => pure output
  | .vPrediction =>
    B.weightedSum [(A.narrow (A.sqrt alpha), output), (A.narrow (A.sqrt (1 - alpha)), sample)]

/-- The weight of the noise in the step from one cumulative alpha to the next. -/
def noiseWeight (alpha next : A.Wide) : A.Wide :=
  -(next - alpha) / (alpha * A.sqrt (1 - next) + A.sqrt (alpha * (1 - alpha) * next))

/-- Carries a sample to the next timestep by the outputs remembered. -/
def advance (B : Backend A σ τ) (s : Pndm A τ) (timestep : A.Elem) (sample : τ) :
    Action σ τ := do
  let t := A.truncate timestep
  let next ← Action.ofExcept (s.line.next t)
  let output ← combined B s.outputs
  let final := s.line.schedule.finalAlpha
  let alpha := s.line.schedule.alphaProd t final
  let alphaNext := s.line.schedule.alphaProd next final
  let noise ← noiseOf B s.line.schedule.config.predictionType alpha output sample
  B.weightedSum
    [(A.narrow (A.sqrt (alphaNext / alpha)), sample),
     (A.narrow (noiseWeight alpha alphaNext), noise)]

def step (B : Backend A σ τ) (output : τ) (timestep : A.Elem) (sample : τ) :
    Action (σ × Pndm A τ) τ := do
  let s := (← Action.onSecond get).remember output
  Action.onSecond (set s)
  Action.onFirst (s.advance B timestep sample)

end Pndm

end Diffusion
