import Diffusion.Scheduler.SigmaTrack

/-!
The linear multistep method over sigmas: the last four derivatives are interpolated, and the
interpolation is integrated from one sigma to the next.

A derivative counts as soon as it is computed, whether or not the step that brought it succeeds.
-/

namespace Diffusion

variable {A : Arithmetic} {σ τ : Type}

/-- A pass with the derivatives it remembers, newest first. -/
structure LinearMultistep (A : Arithmetic) (τ : Type) where
  track : SigmaTrack A
  derivatives : List τ

namespace LinearMultistep

/-- How many derivatives are remembered, which is also the highest order. -/
def memory : Nat := 4

/-- Into how many parts an interval of integration is cut. -/
def parts : Nat := 16

def unplanned (schedule : NoiseSchedule A) : LinearMultistep A τ := ⟨.unplanned schedule, []⟩

/-- Plans a pass. The derivatives of the last one are forgotten even if the new one is refused. -/
def plan (s : LinearMultistep A τ) (steps : Nat) :
    Except Halt (LinearMultistep A τ) × LinearMultistep A τ :=
  let cleared := { s with derivatives := [] }
  match s.track.plan steps with
  | .ok track => (.ok { cleared with track }, { cleared with track })
  | .error halt => (.error halt, cleared)

/-- The weight of an inner point of Simpson's rule. -/
def simpsonWeight (A : Arithmetic) (i : Nat) : A.Wide := if i % 2 = 1 then 4 else 2

/-- Simpson's rule over a number of parts, made even. -/
def simpson (f : A.Wide → A.Wide) (start stop : A.Wide) (parts : Nat) : A.Wide :=
  let n := parts + parts % 2
  let width := (stop - start) / A.wideOfNat n
  let sum := (List.range' 1 (n - 1)).foldl
    (fun sum i => sum + simpsonWeight A i * f (start + width * A.wideOfNat i))
    (f start + f stop)
  sum * width / 3

/-- The product of the Lagrange basis polynomial that is 1 at `node` and 0 at the others. -/
def basis (node : A.Wide) (others : List A.Wide) (x : A.Wide) : A.Wide :=
  others.foldl (fun product other => product * ((x - other) / (node - other))) 1

/-- The integral from the sigma at place `i` to the next one of the basis polynomial that is 1 at
the sigma `k` places earlier, among the last `order` sigmas. -/
def coefficient (sigmas : Array A.Wide) (order i k : Nat) : Except Halt A.Wide := do
  let back (j : Nat) : Except Halt A.Wide :=
    if j ≤ i then Halt.entry sigmas (i - j) else .error .overflow
  let start ← Halt.entry sigmas i
  let stop ← Halt.entry sigmas (i + 1)
  let others ← ((List.range order).filter (· ≠ k)).mapM back
  let node ← back k
  return simpson (basis node others) start stop parts

/-- Remembers a derivative in place of the oldest. -/
def remember (s : LinearMultistep A τ) (derivative : τ) : LinearMultistep A τ :=
  { s with derivatives := (derivative :: s.derivatives).take memory }

/-- Adds the weighted derivatives to a sample. At the start of a pass there are fewer sigmas behind
a place than derivatives remembered. -/
def advance (B : Backend A σ τ) (s : LinearMultistep A τ) (i : Nat) (sample : τ) :
    Action σ τ := do
  let order := min (min (i + 1) memory) s.derivatives.length
  let weights ← Action.ofExcept <|
    (List.range order).mapM fun k => A.narrow <$> coefficient s.track.sigmas order i k
  B.weightedSum ((1, sample) :: weights.zip s.derivatives)

/-- A call on the track of a pass. -/
def onTrack {α : Type} (x : Action (σ × SigmaTrack A) α) :
    Action (σ × LinearMultistep A τ) α := fun (w, s) =>
  let (answer, w, track) := x.runOn (w, s.track)
  (answer, w, { s with track })

def step (B : Backend A σ τ) (output : τ) (timestep : A.Elem) (sample : τ) :
    Action (σ × LinearMultistep A τ) τ := do
  let i ← onTrack (Action.onSecond (SigmaTrack.locate timestep))
  let s ← Action.onSecond get
  let sigma ← Action.ofExcept (s.track.sigma i)
  let derivative ← Action.onFirst (s.track.derivative B sigma output sample)
  let s := s.remember derivative
  Action.onSecond (set s)
  let previous ← Action.onFirst (s.advance B i sample)
  Action.onSecond (set { s with track := s.track.moved })
  return previous

end LinearMultistep

end Diffusion
