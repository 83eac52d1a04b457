import Diffusion.Arithmetic
import Diffusion.Error

/-!
Programs: flat sequences of tensor operations in which every value is defined once.

The inputs are values `0, 1, ...` and every instruction defines the next one, so the position of
an instruction is its value less the number of inputs.
-/

namespace Diffusion

/-- A half of the batch. -/
inductive Half where
  | first
  | second
deriving DecidableEq, Repr

namespace Half

def text : Half → String
  | first => "first"
  | second => "second"

/-- One of two things, by the half. -/
def pick {α : Type} (halves : α × α) : Half → α
  | first => halves.1
  | second => halves.2

end Half

/-- An operation on earlier values. -/
inductive Op (A : Arithmetic) where
  /-- Times a constant. The factor is an element, kept wide so that text holds all of it. -/
  | scale (input : Nat) (factor : A.Wide)
  | add (lhs rhs : Nat)
  | sub (lhs rhs : Nat)
  | concat (lhs rhs : Nat)
  | slice (input : Nat) (half : Half)
  /-- Standard normal noise in the shape of a value. -/
  | noise (like : Nat) (seed : UInt64)
  /-- A call of the denoising network. -/
  | unet (sample conditioning : Nat) (timestep : A.Elem)

namespace Op

variable {A : Arithmetic}

def operands : Op A → List Nat
  | scale input _ | slice input _ | noise input _ => [input]
  | add lhs rhs | sub lhs rhs | concat lhs rhs | unet lhs rhs _ => [lhs, rhs]

/-- The operation with its operands renamed, one after the other. -/
def mapOperandsM {m : Type → Type} [Monad m] (f : Nat → m Nat) : Op A → m (Op A)
  | scale input factor => return scale (← f input) factor
  | add lhs rhs => return add (← f lhs) (← f rhs)
  | sub lhs rhs => return sub (← f lhs) (← f rhs)
  | concat lhs rhs => return concat (← f lhs) (← f rhs)
  | slice input half => return slice (← f input) half
  | noise like seed => return noise (← f like) seed
  | unet sample conditioning timestep => return unet (← f sample) (← f conditioning) timestep

/-- The operation with its operands renamed. -/
def mapOperands (f : Nat → Nat) (op : Op A) : Op A :=
  Id.run (op.mapOperandsM fun v => return f v)

/-- The short name of an operation. -/
def mnemonic : Op A → String
  | scale .. => "scale"
  | add .. => "add"
  | sub .. => "sub"
  | concat .. => "concat"
  | slice .. => "slice"
  | noise .. => "noise"
  | unet .. => "unet"

/-- Whether an operation calls the network. -/
def isCall : Op A → Bool
  | unet .. => true
  | _ => false

@[simp] theorem operands_mapOperands (f : Nat → Nat) (op : Op A) :
    (op.mapOperands f).operands = op.operands.map f := by
  cases op <;> rfl

@[simp] theorem mapOperands_mapOperands (f g : Nat → Nat) (op : Op A) :
    (op.mapOperands f).mapOperands g = op.mapOperands (g ∘ f) := by
  cases op <;> rfl

@[simp] theorem mapOperands_id (op : Op A) : op.mapOperands id = op := by
  cases op <;> rfl

/-- Renaming succeeds if that of each operand does. -/
theorem mapOperandsM_eq_ok {f : Nat → Except Halt Nat} {g : Nat → Nat} {op : Op A}
    (each : ∀ v ∈ op.operands, f v = .ok (g v)) : op.mapOperandsM f = .ok (op.mapOperands g) := by
  cases op with
  | scale input factor | slice input half | noise like seed =>
      rw [mapOperandsM, each _ (by simp [operands])]
      rfl
  | add lhs rhs | sub lhs rhs | concat lhs rhs | unet lhs rhs timestep =>
      rw [mapOperandsM, each lhs (by simp [operands]), each rhs (by simp [operands])]
      rfl

theorem mapOperands_congr {f g : Nat → Nat} {op : Op A}
    (agree : ∀ v ∈ op.operands, f v = g v) : op.mapOperands f = op.mapOperands g := by
  cases op <;> simp_all [operands, mapOperands, mapOperandsM]

end Op

/-- An operation with the shape of the value that it defines. -/
structure Instruction (A : Arithmetic) where
  op : Op A
  shape : Shape

/-- A named tensor that a program takes. -/
structure ProgramInput where
  name : String
  shape : Shape
deriving DecidableEq, Repr

/-- A sequence of instructions over inputs, with the value that is its result. -/
structure Program (A : Arithmetic) where
  inputs : Array ProgramInput
  instructions : Array (Instruction A)
  output : Nat

namespace Program

variable {A : Arithmetic} (p : Program A)

/-- Inputs and results of instructions together. -/
def numValues : Nat := p.inputs.size + p.instructions.size

/-- The shape of a value, if the program has it. -/
def valueShape? (value : Nat) : Option Shape :=
  if value < p.inputs.size then p.inputs[value]?.map (·.shape)
  else p.instructions[value - p.inputs.size]?.map (·.shape)

/-- The shape of the result, if the program has it. -/
def outputShape? : Option Shape := p.valueShape? p.output

def calls : Nat := p.instructions.countP (·.op.isCall)

end Program

end Diffusion
