import Diffusion.Program.Execution

/-!
How much memory a program needs: the largest total size of values that a replay holds at once.
-/

namespace Diffusion.Program

variable {A : Arithmetic} (p : Program A)

def elementBytes : Nat := 4

/-- A product of words that must stay a word after every factor. -/
def checkedProduct : Nat → List Nat → Except Halt Nat
  | product, [] => .ok product
  | product, factor :: rest => do
    let next ← Halt.checked (product * factor)
    checkedProduct next rest

/-- A sum of words that must stay a word after every term. -/
def checkedSum : Nat → List Nat → Except Halt Nat
  | sum, [] => .ok sum
  | sum, term :: rest => do
    let next ← Halt.checked (sum + term)
    checkedSum next rest

/-- The bytes of a value of a shape, counted in a word. -/
def valueBytes (s : Shape) : Except Halt Nat := do
  let elements ← checkedProduct 1 s
  Halt.checked (elements * elementBytes)

/-- What is kept of a count of live bytes: how an amount is added to it, and how a value whose bytes
are taken off is. -/
structure Watch (α : Type) where
  amount : Nat → α → α
  taken : Nat → α → α

variable {α : Type} (watch : Watch α)

/-- Takes the bytes of released operands off the live ones. Each operand counts once. -/
def releaseBytes (last : Array (Option Nat)) (index : Nat) :
    List Nat → Nat → α → Except Halt (Nat × α)
  | [], live, seen => .ok (live, seen)
  | value :: rest, live, seen => do
    let lastUse ← Halt.entry last value
    if lastUse = some index ∧ value ≠ p.output then
      match p.valueShape? value with
      | some s =>
        let bytes ← valueBytes s
        if bytes ≤ live then releaseBytes last index rest (live - bytes) (watch.taken value seen)
        else .error .overflow
      | none => releaseBytes last index rest live seen
    else
      releaseBytes last index rest live seen

/-- Follows the live bytes through instructions in order, the first of which has the given index. -/
def followFrom (last : Array (Option Nat)) :
    Nat → List (Instruction A) → Nat → α → Except Halt α
  | _, [], _, seen => .ok seen
  | index, i :: rest, live, seen => do
    let bytes ← valueBytes i.shape
    let live ← Halt.checked (live + bytes)
    let (after, seen) ←
      p.releaseBytes watch last index i.op.operands.eraseDups live (watch.amount live seen)
    followFrom last (index + 1) rest after seen

/-- Follows the live bytes of a replay from its start on. -/
def follow (seen : α) : Except Halt α := do
  let sizes ← p.inputs.toList.mapM fun input => valueBytes input.shape
  let live ← checkedSum 0 sizes
  p.followFrom watch p.lastUses 0 p.instructions.toList live (watch.amount live seen)

/-- Keeps the largest amount. -/
def Watch.largest : Watch Nat where
  amount live peak := max peak live
  taken _ peak := peak

/-- The largest number of bytes that a replay holds at once. -/
def peakLiveBytes : Except Halt Nat := p.follow .largest 0

end Diffusion.Program
