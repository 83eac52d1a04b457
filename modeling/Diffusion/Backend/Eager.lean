import Diffusion.Network

/-!
The backend that computes tensors at once.
-/

namespace Diffusion

/-- Strides of a layout are signed words, so no tensor spans more elements than this. -/
def spanLimit : Nat := UInt64.size / 2

namespace Tensor

variable {A : Arithmetic}

def scale (a : Tensor A.Elem) (factor : A.Elem) : Tensor A.Elem := a.map (· * factor)

/-- Lays one batch after another, if the shapes allow it and the result has strides. -/
def concat (a b : Tensor A.Elem) : Except Error (Tensor A.Elem) :=
  match stacked : Shape.stack? a.shape b.shape with
  | none => .error (.shapeMismatch "concat" a.shape b.shape)
  | some s => if s.span < spanLimit then .ok (a.stack b stacked) else .error .stackTooLarge

def split (a : Tensor A.Elem) : Except Error (Tensor A.Elem × Tensor A.Elem) :=
  match halved : Shape.half? a.shape with
  | none => .error (.unsplittable a.shape)
  | some _ => .ok (a.firstHalf halved, a.secondHalf halved)

/-- Combines tensors of one shape. -/
def combine (operation : String) (f : A.Elem → A.Elem → A.Elem) (a b : Tensor A.Elem) :
    Except Error (Tensor A.Elem) :=
  if same : a.shape = b.shape then .ok (a.zipWith f b same)
  else .error (.shapeMismatch operation a.shape b.shape)

def noise (A : Arithmetic) (shape : Shape) (seed : UInt64) : Tensor A.Elem :=
  ofVector shape (A.normals seed shape.volume)

end Tensor

namespace Backend

variable {A : Arithmetic} {ν : Type}

/-- A result without effect as a call that may report its error. -/
def reported {σ α : Type} (r : Except Error α) : Action σ α :=
  Action.ofExcept (r.mapError .error)

/-- Calls the network on a sample and conditioning of one batch extent and insists on an answer
of the sample's shape. -/
def callNetwork (network : Option (Network A ν)) (sample : Tensor A.Elem) (timestep : A.Elem)
    (conditioning : Tensor A.Elem) : Action ν (Tensor A.Elem) := do
  match network with
  | none => Action.fail .noNetwork
  | some network =>
    if sample.shape.head? ≠ conditioning.shape.head? then
      Action.fail (.shapeMismatch "unet" sample.shape conditioning.shape)
    else
      let noise ← network.predict sample timestep conditioning
      if noise.shape ≠ sample.shape then
        Action.fail (.networkShape noise.shape sample.shape)
      else
        pure noise

/-- Computes with tensors. The state is that of the network, which may be missing. -/
def eager (network : Option (Network A ν)) : Backend A ν (Tensor A.Elem) where
  shape a := a.shape
  scale a factor := pure (a.scale factor)
  add a b := reported (a.combine "add" (· + ·) b)
  sub a b := reported (a.combine "sub" (· - ·) b)
  concat a b := reported (a.concat b)
  split a := reported a.split
  noise a seed := pure (Tensor.noise A a.shape seed)
  predict := callNetwork network

end Backend

end Diffusion
