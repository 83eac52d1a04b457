import Diffusion.Shape

/-!
Tensors: row-major elements under a shape, with one element for every position.

Main statements: each operation's shape, and that the halves of a stack are the stacked tensors.
-/

namespace Diffusion

/-- Elements in row-major order. A tensor holds as many as its shape has positions. -/
structure Tensor (α : Type) where
  shape : Shape
  data : Array α
  size_eq : data.size = shape.volume := by simp

namespace Tensor

variable {α β : Type}

@[ext] theorem ext {a b : Tensor α} (shapes : a.shape = b.shape) (elements : a.data = b.data) :
    a = b := by
  cases a
  cases b
  cases shapes
  cases elements
  rfl

/-- The tensor of given elements, if there are as many as the shape has positions. -/
def ofArray? (shape : Shape) (data : Array α) : Option (Tensor α) :=
  if h : data.size = shape.volume then some ⟨shape, data, h⟩ else none

def fill (shape : Shape) (x : α) : Tensor α where
  shape
  data := Array.replicate shape.volume x
  size_eq := Array.size_replicate

/-- The tensor whose elements follow from their row-major position. -/
def ofFn (shape : Shape) (f : Nat → α) : Tensor α where
  shape
  data := Array.ofFn fun i : Fin shape.volume => f i
  size_eq := Array.size_ofFn

/-- The tensor over a row of elements of the right length. -/
def ofVector (shape : Shape) (elements : Vector α shape.volume) : Tensor α where
  shape
  data := elements.toArray
  size_eq := elements.size_toArray

def map (f : α → β) (a : Tensor α) : Tensor β where
  shape := a.shape
  data := a.data.map f
  size_eq := by rw [Array.size_map, a.size_eq]

def zipWith (f : α → α → β) (a b : Tensor α) (same : a.shape = b.shape) : Tensor β where
  shape := a.shape
  data := Array.zipWith f a.data b.data
  size_eq := by rw [Array.size_zipWith, a.size_eq, b.size_eq, same, Nat.min_self]

/-- Lays the batch of one tensor after the batch of another. -/
def stack (a b : Tensor α) {s : Shape} (stacked : Shape.stack? a.shape b.shape = some s) :
    Tensor α where
  shape := s
  data := a.data ++ b.data
  size_eq := by rw [Array.size_append, a.size_eq, b.size_eq, Shape.volume_stack stacked]

def firstHalf (a : Tensor α) {s : Shape} (halved : Shape.half? a.shape = some s) : Tensor α where
  shape := s
  data := a.data.extract 0 s.volume
  size_eq := by
    rw [Array.size_extract, a.size_eq, Shape.volume_half halved]
    omega

def secondHalf (a : Tensor α) {s : Shape} (halved : Shape.half? a.shape = some s) : Tensor α where
  shape := s
  data := a.data.extract s.volume (s.volume + s.volume)
  size_eq := by
    rw [Array.size_extract, a.size_eq, Shape.volume_half halved]
    omega

@[simp] theorem shape_map (f : α → β) (a : Tensor α) : (a.map f).shape = a.shape := rfl

@[simp] theorem shape_zipWith (f : α → α → β) (a b : Tensor α) (same : a.shape = b.shape) :
    (a.zipWith f b same).shape = a.shape := rfl

@[simp] theorem shape_fill (shape : Shape) (x : α) : (fill shape x).shape = shape := rfl

@[simp] theorem shape_ofVector (shape : Shape) (elements : Vector α shape.volume) :
    (ofVector shape elements).shape = shape := rfl

@[simp] theorem shape_stack (a b : Tensor α) {s : Shape}
    (stacked : Shape.stack? a.shape b.shape = some s) : (a.stack b stacked).shape = s := rfl

/-! ### Halves -/

theorem firstHalf_stack {a b : Tensor α} {s : Shape}
    (stacked : Shape.stack? a.shape b.shape = some s) (halved : Shape.half? s = some a.shape) :
    (a.stack b stacked).firstHalf halved = a := by
  apply ext
  · rfl
  · change (a.data ++ b.data).extract 0 a.shape.volume = a.data
    rw [← a.size_eq, Array.extract_append_left]
    exact Array.extract_size

theorem secondHalf_stack {a b : Tensor α} {s : Shape}
    (stacked : Shape.stack? a.shape b.shape = some s) (halved : Shape.half? s = some b.shape)
    (same : a.shape = b.shape) : (a.stack b stacked).secondHalf halved = b := by
  apply ext
  · rfl
  · change (a.data ++ b.data).extract b.shape.volume (b.shape.volume + b.shape.volume) = b.data
    have size : a.data.size = b.data.size := by rw [a.size_eq, b.size_eq, same]
    rw [← b.size_eq, Array.extract_append, size]
    simp [size]

@[simp] theorem firstHalf_map (f : α → β) (a : Tensor α) {s : Shape}
    (halved : Shape.half? (a.map f).shape = some s) :
    (a.map f).firstHalf halved = (a.firstHalf halved).map f := by
  apply ext
  · rfl
  · exact Array.map_extract.symm

@[simp] theorem secondHalf_map (f : α → β) (a : Tensor α) {s : Shape}
    (halved : Shape.half? (a.map f).shape = some s) :
    (a.map f).secondHalf halved = (a.secondHalf halved).map f := by
  apply ext
  · rfl
  · exact Array.map_extract.symm

/-- What is mapped to itself everywhere stays as it is. -/
theorem map_id_of {f : α → α} (same : ∀ x, f x = x) (a : Tensor α) : a.map f = a := by
  apply ext
  · rfl
  · have identity : f = id := funext same
    simp [map, identity]

end Tensor

end Diffusion
