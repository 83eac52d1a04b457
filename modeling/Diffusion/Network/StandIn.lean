import Diffusion.Arithmetic.Machine
import Diffusion.Network

/-!
Networks in closed form, to try a sampler without a trained model.
-/

namespace Diffusion.StandIn

/-- How a network strays from its formula: it may fail at one of its calls, counted from zero, and
it may answer with zeros of another shape. -/
structure Fault where
  failAt : Option Nat
  shape : Option Shape

/-- A network that follows a formula but for its faults. The state counts the calls. -/
def network {A : Arithmetic} (fault : Fault)
    (formula : Tensor A.Elem → A.Elem → Tensor A.Elem → Except Halt (Tensor A.Elem)) :
    Network A Nat where
  predict sample timestep conditioning := do
    let earlier ← get
    set (earlier + 1)
    if fault.failAt = some earlier then Action.fail (.networkFailed "network failed")
    else match fault.shape with
      | some s => pure (Tensor.fill s 0)
      | none => Action.ofExcept (formula sample timestep conditioning)

/-- The coefficients of a polynomial in the sample, the timestep and the conditioning. -/
structure Polynomial (A : Arithmetic) where
  linear : A.Elem
  quadratic : A.Elem
  time : A.Elem
  hidden : A.Elem

/-- Timesteps as fractions of a thousand. -/
def fraction {A : Arithmetic} (timestep : A.Elem) : A.Elem := timestep / 1000

def batchRows (s : Shape) : Nat := max (s.headD 1) 1

/-- The polynomial at every element, with the first element of the conditioning's row of the same
batch row. -/
def Polynomial.apply {A : Arithmetic} (p : Polynomial A) (sample : Tensor A.Elem)
    (timestep : A.Elem) (conditioning : Tensor A.Elem) : Tensor A.Elem :=
  let rows := batchRows sample.shape
  let perRow := max (sample.data.size / rows) 1
  let hiddenPerRow := conditioning.data.size / rows
  let t := fraction timestep
  Tensor.ofFn sample.shape fun i =>
    let v := sample.data.getD i 0
    let h := conditioning.data.getD (i / perRow * hiddenPerRow) 0
    p.linear * v + p.quadratic * (v * v) + p.time * t + p.hidden * h

/-- The sum of elements. Eight partial sums take every eighth element each; then they are added in
pairs four apart, and the elements left over in order. -/
def pairedSum (xs : List Float32) : Float32 :=
  let whole := xs.length / 8 * 8
  let partials := (xs.take whole).zipIdx.foldl
    (fun (sums : Array Float32) (x, i) => sums.modify (i % 8) (· + x))
    (Array.replicate 8 0)
  let paired := (List.range 4).foldl
    (fun sum j => sum + (partials.getD j 0 + partials.getD (j + 4) 0)) 0
  (xs.drop whole).foldl (· + ·) paired

def mean (xs : List Float32) : Float32 :=
  if xs.isEmpty then 0 else pairedSum xs / Float32.ofNat xs.length

/-- A network that mixes the sine of the sample, the timestep and the mean of the conditioning's
row, so that guidance and history all show in its answers. Without a batch axis there are no
rows to go by. -/
def mixing (sample : Tensor Float32) (timestep : Float32) (conditioning : Tensor Float32) :
    Except Halt (Tensor Float32) :=
  match sample.shape with
  | [] => .error .indexOutOfRange
  | rows :: _ =>
    let perRow := max (sample.data.size / max rows 1) 1
    let hiddenPerRow := conditioning.data.size / max rows 1
    let t := fraction (A := machine) timestep
    let means := (Array.range rows).map fun r =>
      mean (conditioning.data.extract (r * hiddenPerRow) ((r + 1) * hiddenPerRow)).toList
    .ok <| Tensor.ofFn sample.shape fun i =>
      0.1 * (sample.data.getD i 0).sin + 0.05 * t + 0.2 * means.getD (i / perRow) 0

end Diffusion.StandIn
