import Diffusion.Backend
import Diffusion.Program.Validity

/-!
The backend that records operations in place of computing them.

Its tensors are values: an id and a static shape. Every operation that it accepts becomes an
instruction of the program in the making, and a call that fails records nothing.
-/

namespace Diffusion

/-- A value of a program in the making. -/
structure Value where
  id : Nat
  shape : Shape
deriving DecidableEq, Repr

/-- A program in the making: its inputs and what was recorded so far. -/
structure Recording (A : Arithmetic) where
  inputs : Array ProgramInput
  instructions : Array (Instruction A)

namespace Recording

variable {A : Arithmetic}

def empty : Recording A := ⟨#[], #[]⟩

/-- Declares an input. Ids count inputs first, so no operation may have been recorded. -/
def declare (name : String) (shape : Shape) : Action (Recording A) Value := do
  let recording ← get
  if recording.instructions.isEmpty then
    set { recording with inputs := recording.inputs.push { name, shape } }
    return { id := recording.inputs.size, shape }
  else
    Action.fail (.lateInput name)

def record (op : Op A) (shape : Shape) : Action (Recording A) Value := do
  let recording ← get
  set { recording with instructions := recording.instructions.push { op, shape } }
  return { id := recording.inputs.size + recording.instructions.size, shape }

/-- The recorded program with a value as its result. -/
def toProgram (recording : Recording A) (output : Nat) : Program A where
  inputs := recording.inputs
  instructions := recording.instructions
  output := output

/-- The recorded program, checked as a whole. -/
def finish (recording : Recording A) (output : Value) : Except Halt (Program A) := do
  let p := recording.toProgram output.id
  Halt.mapError .invalidTrace p.validate
  return p

end Recording

namespace Backend

variable {A : Arithmetic}

open Recording

/-- Records an operation on two values of one shape. -/
def recordAlike (mnemonic : String) (op : Nat → Nat → Op A) (a b : Value) :
    Action (Recording A) Value :=
  if a.shape = b.shape then record (op a.id b.id) a.shape
  else Action.fail (.shapeMismatch mnemonic a.shape b.shape)

def recordConcat (a b : Value) : Action (Recording A) Value :=
  match Shape.stack? a.shape b.shape with
  | some (sum :: rest) => do
    let sum ← Action.ofExcept (Halt.checked sum)
    record (.concat a.id b.id) (sum :: rest)
  | _ => Action.fail (.shapeMismatch "concat" a.shape b.shape)

def recordSplit (a : Value) : Action (Recording A) (Value × Value) :=
  match Shape.half? a.shape with
  | none => Action.fail (.unsplittable a.shape)
  | some s => do
    let first ← record (.slice a.id .first) s
    let second ← record (.slice a.id .second) s
    return (first, second)

/-- Records a call of the network on a sample and conditioning of one batch extent. -/
def recordCall (sample : Value) (timestep : A.Elem) (conditioning : Value) :
    Action (Recording A) Value :=
  if sample.shape.head? = conditioning.shape.head? then
    record (.unet sample.id conditioning.id timestep) sample.shape
  else Action.fail (.shapeMismatch "unet" sample.shape conditioning.shape)

/-- Records operations on values. -/
def tracer (A : Arithmetic) : Backend A (Recording A) Value where
  shape a := a.shape
  scale a factor := record (.scale a.id (A.widen factor)) a.shape
  add := recordAlike "add" .add
  sub := recordAlike "sub" .sub
  concat := recordConcat
  split := recordSplit
  noise a seed := record (.noise a.id seed) a.shape
  predict := recordCall

end Backend

end Diffusion
