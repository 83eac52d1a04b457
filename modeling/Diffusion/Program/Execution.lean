import Diffusion.Backend
import Diffusion.Program

/-!
Replaying a program on a backend.

A value is released right after the last instruction that reads it, unless it is the result.
-/

namespace Diffusion.Program

variable {A : Arithmetic} {σ τ : Type} (p : Program A)

/-- Notes that an instruction reads a value. Values that the program does not have are passed
over. -/
def noteUse (index : Nat) (last : Array (Option Nat)) (value : Nat) : Array (Option Nat) :=
  last.setIfInBounds value (some index)

/-- Notes the reads of instructions in order, the first of which has the given index. -/
def noteUses : Nat → List (Instruction A) → Array (Option Nat) → Array (Option Nat)
  | _, [], last => last
  | index, i :: rest, last => noteUses (index + 1) rest (i.op.operands.foldl (noteUse index) last)

/-- For each value the index of the last instruction that reads it. -/
def lastUses : Array (Option Nat) :=
  noteUses 0 p.instructions.toList (Array.replicate p.numValues none)

def lookup (values : Array (Option τ)) (value : Nat) : Except Halt τ :=
  match values[value]? with
  | some (some x) => .ok x
  | _ => Halt.fail (.valueMissing value)

def perform (B : Backend A σ τ) (values : Array (Option τ)) (op : Op A) : Action σ τ := do
  let read (value : Nat) : Action σ τ := Action.ofExcept (lookup values value)
  match op with
  | .scale input factor => B.scale (← read input) (A.narrow factor)
  | .add lhs rhs => do
    let l ← read lhs
    let r ← read rhs
    B.add l r
  | .sub lhs rhs => do
    let l ← read lhs
    let r ← read rhs
    B.sub l r
  | .concat lhs rhs => do
    let l ← read lhs
    let r ← read rhs
    B.concat l r
  | .slice input half => do
    let halves ← B.split (← read input)
    return half.pick halves
  | .noise like seed => B.noise (← read like) seed
  | .unet sample conditioning timestep => do
    let s ← read sample
    let c ← read conditioning
    B.predict s timestep c

/-- Carries out an instruction and insists on the declared shape. -/
def performDeclared (B : Backend A σ τ) (values : Array (Option τ)) (value : Nat)
    (i : Instruction A) : Action σ τ := do
  let result ← perform B values i.op
  if B.shape result = i.shape then return result
  else Action.fail (.producedShape value (B.shape result) i.shape)

/-- Drops the operands that no later instruction reads. -/
def release (last : Array (Option Nat)) (output index : Nat) :
    List Nat → Array (Option τ) → Except Halt (Array (Option τ))
  | [], values => .ok values
  | value :: rest, values => do
    let lastUse ← Halt.entry last value
    if lastUse = some index ∧ value ≠ output then
      if value < values.size then release last output index rest (values.setIfInBounds value none)
      else .error .indexOutOfRange
    else
      release last output index rest values

/-- Carries out instructions in order and in the given way, the first of which has the given index,
and answers with all values held in the end. -/
def replayBy (carryOut : Array (Option τ) → Nat → Instruction A → Action σ τ)
    (last : Array (Option Nat)) :
    Nat → List (Instruction A) → Array (Option τ) → Action σ (Array (Option τ))
  | _, [], values => pure values
  | index, i :: rest, values => do
    let result ← carryOut values (p.inputs.size + index) i
    let held ← Action.ofExcept
      (release last p.output index i.op.operands (values.push (some result)))
    replayBy carryOut last (index + 1) rest held

def replay (B : Backend A σ τ) (last : Array (Option Nat)) (index : Nat)
    (is : List (Instruction A)) (values : Array (Option τ)) : Action σ (Array (Option τ)) :=
  p.replayBy (performDeclared B) last index is values

/-- Checks the number of inputs and each input's shape. -/
def checkInputs (B : Backend A σ τ) (inputs : List τ) : Except Halt Unit := do
  if inputs.length ≠ p.inputs.size then
    Halt.fail (.inputCount p.inputs.size inputs.length)
  else
    (inputs.zip p.inputs.toList).forM fun (x, declared) =>
      if B.shape x = declared.shape then .ok ()
      else Halt.fail (.inputShape declared.name declared.shape (B.shape x))

/-- Replays the program on inputs of the declared shapes. -/
def execute (B : Backend A σ τ) (inputs : List τ) : Action σ τ := do
  Action.ofExcept (p.checkInputs B inputs)
  let values ← p.replay B p.lastUses 0 p.instructions.toList (inputs.map some).toArray
  match values[p.output]? with
  | some (some x) => return x
  | _ => Action.fail .outputMissing

end Diffusion.Program
