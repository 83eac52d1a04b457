import Diffusion.Backend.Eager
import Diffusion.Program.Footprint

/-!
Random inputs for a program.
-/

namespace Diffusion.Program

variable {A : Arithmetic}

/-- The number of elements of an input, if a tensor can have its shape. -/
def inputVolume (input : ProgramInput) : Except Halt Nat := do
  let volume ← checkedProduct 1 input.shape
  if input.shape.span < spanLimit then return volume
  else Halt.fail (.inputTooLarge input.name)

/-- Tensors for inputs, cut one after another from a pool of elements. -/
def cutInputs (pool : Array A.Elem) : Nat → List ProgramInput → List (Tensor A.Elem)
  | _, [] => []
  | start, input :: rest =>
    Tensor.ofFn input.shape (fun i => pool.getD (start + i) 0) ::
      cutInputs pool (start + input.shape.volume) rest

/-- Uniform elements for every input, drawn in the order of the inputs. -/
def randomInputs (p : Program A) (seed : UInt64) : Except Halt (List (Tensor A.Elem)) := do
  let volumes ← p.inputs.toList.mapM inputVolume
  return cutInputs (A.uniforms seed (volumes.foldr (· + ·) 0)).toArray 0 p.inputs.toList

end Diffusion.Program
