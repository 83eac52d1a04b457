import Diffusion.Arithmetic
import Diffusion.Error

/-!
The tensor operations that schedulers and the sampling loop are written against.

A backend either computes tensors or records what would be computed. Its operations run in a
state that survives a failing call, so what was done before a failure stays done.
-/

namespace Diffusion

/-- A call on a state: it ends with a value or without one, and leaves a state in both cases. -/
abbrev Action (σ α : Type) := ExceptT Halt (StateM σ) α

namespace Action

variable {σ α : Type}

def fail (e : Error) : Action σ α := throw (.error e)

/-- A result that does not touch the state. -/
def ofExcept (r : Except Halt α) : Action σ α := fun s => (r, s)

def runOn (x : Action σ α) (s : σ) : Except Halt α × σ := x s

/-- A call on the first part of a state. -/
def onFirst {ρ : Type} (x : Action σ α) : Action (σ × ρ) α := fun (s, r) =>
  let (answer, s) := x.runOn s
  (answer, s, r)

/-- A call on the second part of a state. -/
def onSecond {ρ : Type} (x : Action ρ α) : Action (σ × ρ) α := fun (s, r) =>
  let (answer, r) := x.runOn r
  (answer, s, r)

end Action

/-- Tensor operations over handles `τ` and a state `σ`. Arithmetic is elementwise. -/
structure Backend (A : Arithmetic) (σ τ : Type) where
  shape : τ → Shape
  scale : τ → A.Elem → Action σ τ
  add : τ → τ → Action σ τ
  sub : τ → τ → Action σ τ
  concat : τ → τ → Action σ τ
  split : τ → Action σ (τ × τ)
  /-- Standard normal noise in the shape of a tensor, determined by the seed. -/
  noise : τ → UInt64 → Action σ τ
  /-- The denoising network on a sample, a timestep and the conditioning. -/
  predict : τ → A.Elem → τ → Action σ τ

namespace Backend

variable {A : Arithmetic} {σ τ : Type} (B : Backend A σ τ)

/-- Adds the remaining terms to a sum, each scaled first, from left to right. -/
def addTerms (sum : τ) : List (A.Elem × τ) → Action σ τ
  | [] => pure sum
  | (coefficient, x) :: rest => do
    let scaled ← B.scale x coefficient
    let sum ← B.add sum scaled
    addTerms sum rest

/-- A sum of scaled tensors, as a chain of scales and adds from left to right. -/
def weightedSum : List (A.Elem × τ) → Action σ τ
  | [] => Action.fail .noTerms
  | (coefficient, x) :: rest => do
    let first ← B.scale x coefficient
    B.addTerms first rest

/-- Moves from the unconditional prediction toward the conditional one: their difference, scaled,
is added to the unconditional prediction. -/
def guide (unconditional conditional : τ) (guidance : A.Elem) : Action σ τ := do
  let delta ← B.sub conditional unconditional
  let scaled ← B.scale delta guidance
  B.add unconditional scaled

end Backend

end Diffusion
