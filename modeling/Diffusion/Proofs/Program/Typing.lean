import Diffusion.Program.Validity
import Diffusion.Proofs.Action

/-!
Validation as a typing judgement.

`Implies` says which shape the operands of an operation give its result; `WellTyped` says that every
instruction reads earlier values and declares that shape. Main statement: `valid_iff_wellTyped`.
-/

namespace Diffusion

/-- A factor, if there is one, is an element. -/
def Op.Exact {A : Arithmetic} (op : Op A) : Prop :=
  ∀ input factor, op = .scale input factor → ∃ x, factor = A.widen x

theorem Op.exact_of_ne {A : Arithmetic} {op : Op A} (other : ∀ v factor, op ≠ .scale v factor) :
    op.Exact :=
  fun v factor same => absurd same (other v factor)

theorem Op.exact_scale {A : Arithmetic} (v : Nat) (x : A.Elem) :
    (Op.scale v (A.widen x)).Exact := by
  rintro _ _ ⟨⟩
  exact ⟨x, rfl⟩

theorem Op.Exact.mapOperands {A : Arithmetic} {op : Op A} (exact : op.Exact) (f : Nat → Nat) :
    (op.mapOperands f).Exact := by
  cases op with
  | scale input factor =>
      rintro _ _ ⟨⟩
      exact exact input factor rfl
  | add | sub | concat | slice | noise | unet => exact Op.exact_of_ne (by nofun)

namespace Program

variable {A : Arithmetic} (p : Program A)

/-- The shape that an operation has by the shapes declared for its operands. -/
inductive Implies : Op A → Shape → Prop
  | scale {input factor s} (operand : p.valueShape? input = some s) :
      Implies (.scale input factor) s
  | add {lhs rhs s} (left : p.valueShape? lhs = some s) (right : p.valueShape? rhs = some s) :
      Implies (.add lhs rhs) s
  | sub {lhs rhs s} (left : p.valueShape? lhs = some s) (right : p.valueShape? rhs = some s) :
      Implies (.sub lhs rhs) s
  | concat {lhs rhs l r sum rest} (left : p.valueShape? lhs = some l)
      (right : p.valueShape? rhs = some r) (stacked : Shape.stack? l r = some (sum :: rest))
      (fits : sum < Halt.wordLimit) : Implies (.concat lhs rhs) (sum :: rest)
  | slice {input half n rest} (operand : p.valueShape? input = some (n :: rest))
      (even : n % 2 = 0) : Implies (.slice input half) (n / 2 :: rest)
  | noise {like seed s} (operand : p.valueShape? like = some s) : Implies (.noise like seed) s
  | unet {sample conditioning timestep s c} (operand : p.valueShape? sample = some s)
      (condition : p.valueShape? conditioning = some c) (rows : s.head? = c.head?) :
      Implies (.unet sample conditioning timestep) s

variable {p} in
/-- What an operation implies, it implies renamed where the new operands have the shapes of the old
ones. -/
theorem Implies.mapOperands {q : Program A} {f : Nat → Nat} {op : Op A} {s : Shape}
    (keeps : ∀ v ∈ op.operands, ∀ s, p.valueShape? v = some s → q.valueShape? (f v) = some s)
    (implies : p.Implies op s) : q.Implies (op.mapOperands f) s := by
  cases implies with
  | scale operand => exact .scale (keeps _ (by simp [Op.operands]) _ operand)
  | noise operand => exact .noise (keeps _ (by simp [Op.operands]) _ operand)
  | slice operand even => exact .slice (keeps _ (by simp [Op.operands]) _ operand) even
  | add left right =>
      exact .add (keeps _ (by simp [Op.operands]) _ left) (keeps _ (by simp [Op.operands]) _ right)
  | sub left right =>
      exact .sub (keeps _ (by simp [Op.operands]) _ left) (keeps _ (by simp [Op.operands]) _ right)
  | concat left right stacked fits =>
      exact .concat (keeps _ (by simp [Op.operands]) _ left)
        (keeps _ (by simp [Op.operands]) _ right) stacked fits
  | unet operand condition rows =>
      exact .unet (keeps _ (by simp [Op.operands]) _ operand)
        (keeps _ (by simp [Op.operands]) _ condition) rows

/-- Every instruction reads earlier values and declares the shape that they imply, and the result
is a value of the program. -/
structure WellTyped : Prop where
  ordered : ∀ (index : Nat) (i : Instruction A), p.instructions[index]? = some i →
    ∀ v ∈ i.op.operands, v < p.inputs.size + index
  declared : ∀ (index : Nat) (i : Instruction A), p.instructions[index]? = some i →
    p.Implies i.op i.shape
  output : p.output < p.numValues

theorem operandShape_eq_ok_iff {value : Nat} {s : Shape} :
    p.operandShape value = .ok s ↔ p.valueShape? value = some s := by
  unfold operandShape
  cases p.valueShape? value <;> simp [Halt.fail]

theorem impliedShape_eq_ok_iff {op : Op A} {s : Shape} :
    p.impliedShape op = .ok s ↔ p.Implies op s := by
  cases op with
  | scale input factor | noise like seed =>
      rw [impliedShape, operandShape_eq_ok_iff]
      constructor
      · intro operand
        constructor
        exact operand
      · intro implies
        cases implies
        assumption
  | add lhs rhs | sub lhs rhs =>
      simp only [impliedShape, Halt.bind_eq_ok_iff, operandShape_eq_ok_iff]
      constructor
      · rintro ⟨l, left, r, right, result⟩
        split at result
        · rename_i same
          subst same
          cases result
          constructor <;> assumption
        · cases result
      · intro implies
        cases implies
        refine ⟨s, by assumption, s, by assumption, ?_⟩
        simp [pure, Except.pure]
  | concat lhs rhs =>
      simp only [impliedShape, Halt.bind_eq_ok_iff, operandShape_eq_ok_iff]
      constructor
      · rintro ⟨l, left, r, right, result⟩
        split at result
        · rename_i sum rest stacked
          rw [Halt.bind_eq_ok_iff] at result
          obtain ⟨count, counted, result⟩ := result
          obtain ⟨fits, same⟩ := Halt.checked_eq_ok_iff.mp counted
          subst same
          cases result
          exact .concat left right stacked fits
        · cases result
      · intro implies
        cases implies with
        | concat left right stacked fits =>
            refine ⟨_, left, _, right, ?_⟩
            rw [stacked]
            exact Halt.bind_eq_ok_iff.mpr ⟨_, Halt.checked_eq_ok_iff.mpr ⟨fits, rfl⟩, rfl⟩
  | slice input half =>
      simp only [impliedShape, Halt.bind_eq_ok_iff, operandShape_eq_ok_iff]
      constructor
      · rintro ⟨given, operand, result⟩
        split at result
        · cases result
        · rename_i n rest
          split at result
          · rename_i even
            cases result
            exact .slice operand even
          · cases result
      · intro implies
        cases implies with
        | slice operand even => exact ⟨_, operand, by simp [even, pure, Except.pure]⟩
  | unet sample conditioning timestep =>
      simp only [impliedShape, Halt.bind_eq_ok_iff, operandShape_eq_ok_iff]
      constructor
      · rintro ⟨given, operand, c, condition, result⟩
        split at result
        · rename_i rows
          cases result
          exact .unet operand condition rows
        · cases result
      · intro implies
        cases implies with
        | unet operand condition rows =>
            exact ⟨_, operand, _, condition, by simp [rows, pure, Except.pure]⟩

theorem checkOrder_eq_ok_iff {value : Nat} {operands : List Nat} :
    checkOrder value operands = .ok () ↔ ∀ v ∈ operands, v < value := by
  unfold checkOrder
  split
  · rename_i operand found
    have late := List.find?_some found
    have member := List.mem_of_find?_eq_some found
    simp only [decide_eq_true_eq] at late
    constructor
    · intro impossible
      cases impossible
    · intro ordered
      have := ordered operand member
      omega
  · rename_i none
    simpa using none

theorem checkInstruction_eq_ok_iff {value : Nat} {i : Instruction A} :
    p.checkInstruction value i = .ok () ↔
      (∀ v ∈ i.op.operands, v < value) ∧ p.Implies i.op i.shape := by
  simp only [checkInstruction, Halt.bind_eq_ok_iff]
  constructor
  · rintro ⟨_, ordered, implied, shape, result⟩
    refine ⟨checkOrder_eq_ok_iff.mp ordered, ?_⟩
    split at result
    · rename_i same
      exact same ▸ p.impliedShape_eq_ok_iff.mp shape
    · cases result
  · rintro ⟨ordered, implies⟩
    exact ⟨(), checkOrder_eq_ok_iff.mpr ordered, i.shape, p.impliedShape_eq_ok_iff.mpr implies,
      by simp [pure, Except.pure]⟩

theorem checkInstructions_eq_ok_iff {value : Nat} {is : List (Instruction A)} :
    p.checkInstructions value is = .ok () ↔
      ∀ index i, is[index]? = some i →
        (∀ v ∈ i.op.operands, v < value + index) ∧ p.Implies i.op i.shape := by
  induction is generalizing value with
  | nil => simp [checkInstructions]
  | cons first rest ih =>
      simp only [checkInstructions, Halt.bind_eq_ok_iff, ih]
      constructor
      · rintro ⟨_, here, later⟩ index i found
        cases index with
        | zero =>
            have same : first = i := by simpa using found
            subst same
            exact p.checkInstruction_eq_ok_iff.mp here
        | succ index =>
            obtain ⟨ordered, implies⟩ := later index i (by simpa using found)
            refine ⟨fun v member => ?_, implies⟩
            have := ordered v member
            omega
      · intro all
        refine ⟨(), p.checkInstruction_eq_ok_iff.mpr (all 0 first rfl), fun index i found => ?_⟩
        obtain ⟨ordered, implies⟩ := all (index + 1) i (by simpa using found)
        refine ⟨fun v member => ?_, implies⟩
        have := ordered v member
        omega

/-- Validation accepts exactly the well typed programs. -/
theorem valid_iff_wellTyped : p.Valid ↔ p.WellTyped := by
  simp only [Valid, validate, Halt.bind_eq_ok_iff]
  constructor
  · rintro ⟨_, checked, result⟩
    have all := p.checkInstructions_eq_ok_iff.mp checked
    simp only [Array.getElem?_toList] at all
    split at result
    · rename_i inside
      exact ⟨fun index i found => (all index i found).1,
        fun index i found => (all index i found).2, inside⟩
    · cases result
  · intro typed
    refine ⟨(), p.checkInstructions_eq_ok_iff.mpr fun index i found => ?_, ?_⟩
    · rw [Array.getElem?_toList] at found
      exact ⟨typed.ordered index i found, typed.declared index i found⟩
    · simp [typed.output, pure, Except.pure]

theorem valueShape?_input {value : Nat} (inside : value < p.inputs.size) :
    p.valueShape? value = some p.inputs[value].shape := by
  simp [valueShape?, inside]

theorem valueShape?_instruction {index : Nat} {i : Instruction A}
    (found : p.instructions[index]? = some i) :
    p.valueShape? (p.inputs.size + index) = some i.shape := by
  simp [valueShape?, found]

/-- The shapes of the values in order. -/
def shapes : List Shape :=
  p.inputs.toList.map (·.shape) ++ p.instructions.toList.map (·.shape)

theorem valueShape?_eq_shapes (v : Nat) : p.valueShape? v = p.shapes[v]? := by
  rw [valueShape?, shapes]
  split
  · rename_i input
    simp [List.getElem?_append_left, input]
  · rename_i result
    simp [List.getElem?_append_right, Nat.le_of_not_lt result]

theorem length_shapes : p.shapes.length = p.numValues := by
  simp [shapes, numValues]

theorem valueShape?_of_lt {v : Nat} (inside : v < p.numValues) : ∃ s, p.valueShape? v = some s := by
  rw [valueShape?_eq_shapes]
  exact ⟨_, List.getElem?_eq_getElem (by rwa [length_shapes])⟩

end Program

end Diffusion
