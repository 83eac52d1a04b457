import Diffusion.Program

/-!
Lowering: multiplications by one and values that the result does not need are left out.

Three passes share the numbering of the given program. `forwardingBy` names for every value the one
that it equals when multiplications by one are skipped; `neededBy` marks what the result reads;
`keepBy` keeps the instructions that are marked and counts them anew.
-/

namespace Diffusion

/-- What the passes do with the entries of their tables: how one is written, whether a value is
marked, which number it has. -/
structure Access (m : Type → Type) where
  put {α : Type} : Array α → Nat → α → m (Array α)
  marked : Array Bool → Nat → m Bool
  number : Array (Option Nat) → Nat → m Nat
  run {α : Type} : m α → Except Halt α

/-- Goes on where there is no entry: nothing is written, a value is unmarked, and one without a
number keeps its own. -/
def Access.lenient : Access Id where
  put table i x := table.setIfInBounds i x
  marked marks value := marks.getD value false
  number numbers value := (numbers.getD value none).getD value
  run x := .ok x

namespace Program

variable {A : Arithmetic} (p : Program A) {m : Type → Type} [Monad m] (access : Access m)

/-- Redirects the value of a multiplication by one to where its input is already redirected. -/
def forwardStepBy (value : Nat) (i : Instruction A) (table : Array Nat) :
    Except Halt (Array Nat) :=
  match i.op with
  | .scale input factor =>
    if A.isOne factor then do
      let target ← Halt.entry table input
      access.run (access.put table value target)
    else .ok table
  | _ => .ok table

/-- Redirects through instructions in order, the first of which defines the given value. -/
def forwardBy : Nat → List (Instruction A) → Array Nat → Except Halt (Array Nat)
  | _, [], table => .ok table
  | value, i :: rest, table => do
    let table ← forwardStepBy access value i table
    forwardBy (value + 1) rest table

/-- For each value the one that it equals when multiplications by one are skipped. -/
def forwardingBy : Except Halt (Array Nat) :=
  forwardBy access p.inputs.size p.instructions.toList (Array.range p.numValues)

/-- Renames the operands of an operation by a table that must hold them. -/
def redirect (table : Array Nat) : Op A → Except Halt (Op A) := Op.mapOperandsM (Halt.entry table)

/-- Marks the operands of an instruction whose value is marked. -/
def markStepBy (value : Nat) (i : Instruction A) (marks : Array Bool) : m (Array Bool) := do
  if ← access.marked marks value then
    i.op.operands.foldlM (fun marks v => access.put marks v true) marks
  else return marks

/-- Walks instructions from the last to the first and marks the operands of marked ones. The
instructions come in reverse, the first of them defining the given value. -/
def markBy : Nat → List (Instruction A) → Array Bool → m (Array Bool)
  | _, [], marks => return marks
  | value, i :: before, marks => do
    let marks ← markStepBy access value i marks
    markBy (value - 1) before marks

/-- The values that the result reads, directly or through others. -/
def neededBy (instructions : List (Instruction A)) (output : Nat) : m (Array Bool) := do
  let marks ← access.put (Array.replicate p.numValues false) output true
  markBy access (p.numValues - 1) instructions.reverse marks

/-- What has been kept so far: the new number of each value that has one, and the instructions
under their new numbers. -/
structure Kept (A : Arithmetic) where
  numbers : Array (Option Nat)
  instructions : Array (Instruction A)

/-- Keeps one more instruction, under the next number. -/
def Kept.keepBy (kept : Kept A) (numInputs value : Nat) (i : Instruction A) : m (Kept A) := do
  let numbers ← access.put kept.numbers value (some (numInputs + kept.instructions.size))
  let op ← i.op.mapOperandsM (access.number numbers)
  return { numbers, instructions := kept.instructions.push { i with op } }

/-- Keeps an instruction if its value is marked. -/
def keepStepBy (numInputs : Nat) (marks : Array Bool) (value : Nat) (i : Instruction A)
    (kept : Kept A) : m (Kept A) := do
  if ← access.marked marks value then kept.keepBy access numInputs value i else return kept

/-- Keeps the needed ones of instructions in order, the first of which defines the given value. -/
def keepBy (numInputs : Nat) (marks : Array Bool) :
    Nat → List (Instruction A) → Kept A → m (Kept A)
  | _, [], kept => return kept
  | value, i :: rest, kept => do
    let kept ← keepStepBy access numInputs marks value i kept
    keepBy numInputs marks (value + 1) rest kept

/-- The numbering before any instruction is kept: inputs have their own numbers. -/
def keptInputs : Kept A where
  numbers := (Array.range p.numValues).map fun v => if v < p.inputs.size then some v else none
  instructions := #[]

/-- The program of the same inputs with given instructions, less those that a given result does not
need. -/
def pruneBy (instructions : List (Instruction A)) (output : Nat) : Except Halt (Program A) := do
  let marks ← access.run (p.neededBy access instructions output)
  let kept ← access.run (keepBy access p.inputs.size marks p.inputs.size instructions p.keptInputs)
  let output ← access.run (access.number kept.numbers output)
  return { inputs := p.inputs, instructions := kept.instructions, output }

/-- The program without multiplications by one and without values that the result does not
need. -/
def lowerBy : Except Halt (Program A) := do
  let table ← p.forwardingBy access
  let instructions ← p.instructions.toList.mapM fun i => do
    let op ← redirect table i.op
    return ({ i with op } : Instruction A)
  let output ← Halt.entry table p.output
  p.pruneBy access instructions output

def lower : Except Halt (Program A) := p.lowerBy .lenient

end Program

end Diffusion
