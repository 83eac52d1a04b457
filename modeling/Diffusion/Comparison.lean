import Diffusion.Error
import Diffusion.Tensor
import Diffusion.Arithmetic

/-!
How far two tensors are apart, and whether that is close enough.
-/

namespace Diffusion.Comparison

variable {A : Arithmetic}

/-- The difference of two elements. A difference that is no number counts as unbounded. -/
def elementError (x y : A.Elem) : A.Elem :=
  if A.isNaN (A.elemAbs (x - y)) then A.unbounded else A.elemAbs (x - y)

/-- The largest difference at any position, 0 of tensors without elements. -/
def maxError (actual expected : Tensor A.Elem) : Except Error A.Elem :=
  if actual.shape = expected.shape then
    .ok ((Array.zipWith elementError actual.data expected.data).foldl A.elemMax 0)
  else .error (.shapeMismatch "compare" actual.shape expected.shape)

/-- The tolerance for the results of one program. -/
def parityTolerance (A : Arithmetic) : A.Elem := A.narrow 9e-3

/-- An error must be below the tolerance. -/
def checkParity (error tolerance : A.Elem) : Except Error Unit :=
  if A.below error tolerance then .ok ()
  else .error (.parityExceeded (A.text.exponential error) (A.text.exponential tolerance))

end Diffusion.Comparison
