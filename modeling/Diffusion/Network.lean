import Diffusion.Backend
import Diffusion.Tensor

/-!
Denoising networks: what predicts the noise in a batch of latents.
-/

namespace Diffusion

/-- A network is a machine with a state of its own. A call takes the sample, the timestep and the
conditioning; it may answer with a tensor of any shape or fail. -/
structure Network (A : Arithmetic) (ν : Type) where
  predict : Tensor A.Elem → A.Elem → Tensor A.Elem → Action ν (Tensor A.Elem)

structure NetworkCall (A : Arithmetic) where
  sample : Tensor A.Elem
  timestep : A.Elem
  conditioning : Tensor A.Elem

namespace Network

variable {A : Arithmetic} {ν : Type}

/-- The network with a record of its calls, failed ones included, oldest first. -/
def recorded (network : Network A ν) : Network A (ν × Array (NetworkCall A)) where
  predict sample timestep conditioning := fun (state, calls) =>
    let (answer, state) := (network.predict sample timestep conditioning).runOn state
    (answer, state, calls.push { sample, timestep, conditioning })

/-- The network that is a function of its arguments. -/
def ofFunction (f : Tensor A.Elem → A.Elem → Tensor A.Elem → Except Halt (Tensor A.Elem)) :
    Network A Unit where
  predict sample timestep conditioning := Action.ofExcept (f sample timestep conditioning)

end Network

end Diffusion
