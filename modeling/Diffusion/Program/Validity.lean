import Diffusion.Program

/-!
Which programs are accepted: operands come before their readers, and every declared shape is the
one that the operands imply.
-/

namespace Diffusion.Program

variable {A : Arithmetic} (p : Program A)

def operandShape (value : Nat) : Except Halt Shape :=
  match p.valueShape? value with
  | some s => .ok s
  | none => Halt.fail (.undefinedValue value)

/-- The shape that the operands of an operation imply for its result. -/
def impliedShape (op : Op A) : Except Halt Shape := do
  match op with
  | .scale input _ | .noise input _ => p.operandShape input
  | .add lhs rhs | .sub lhs rhs =>
    let l ← p.operandShape lhs
    let r ← p.operandShape rhs
    if l = r then return l else Halt.fail (.shapeMismatch op.mnemonic l r)
  | .concat lhs rhs =>
    let l ← p.operandShape lhs
    let r ← p.operandShape rhs
    match Shape.stack? l r with
    | some (sum :: rest) => return (← Halt.checked sum) :: rest
    | _ => Halt.fail (.shapeMismatch "concat" l r)
  | .slice input _ =>
    match ← p.operandShape input with
    | [] => Halt.fail (.unsliceable [])
    | n :: rest =>
      if n % 2 = 0 then return n / 2 :: rest else Halt.fail (.unsliceable (n :: rest))
  | .unet sample conditioning _ =>
    let s ← p.operandShape sample
    let c ← p.operandShape conditioning
    if s.head? = c.head? then return s else Halt.fail (.shapeMismatch "unet" s c)

/-- The first operand that does not come before a value is reported. -/
def checkOrder (value : Nat) (operands : List Nat) : Except Halt Unit :=
  match operands.find? (value ≤ ·) with
  | some operand => Halt.fail (.useBeforeDefinition value operand)
  | none => .ok ()

def checkInstruction (value : Nat) (i : Instruction A) : Except Halt Unit := do
  checkOrder value i.op.operands
  let implied ← p.impliedShape i.op
  if implied = i.shape then return ()
  else Halt.fail (.declaredShape value i.op.mnemonic i.shape implied)

/-- Checks instructions in order, the first of which defines the given value. -/
def checkInstructions : Nat → List (Instruction A) → Except Halt Unit
  | _, [] => .ok ()
  | value, i :: rest => do
    p.checkInstruction value i
    checkInstructions (value + 1) rest

/-- Checks every instruction and that the result is a value of the program. -/
def validate : Except Halt Unit := do
  p.checkInstructions p.inputs.size p.instructions.toList
  if p.output < p.numValues then return () else Halt.fail (.undefinedOutput p.output)

/-- A program that passes every check. -/
def Valid : Prop := p.validate = .ok ()

end Diffusion.Program
