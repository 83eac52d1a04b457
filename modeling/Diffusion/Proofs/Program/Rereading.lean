import Diffusion.Proofs.Program.Encoding
import Diffusion.Proofs.Program.Retention
import Diffusion.Proofs.Program.Typing

/-!
Programs as they come back through JSON.

Numbers may come back changed, but shapes and operands do not, so what comes back of a checked
program is checked. A factor is narrowed to an element before anything is scaled by it. So if the
factors are elements, what comes back computes the same, although its factors may be neighbours of
the ones that were written. Main statements: `valid_reread` and `execute_reread`.
-/

namespace Diffusion

variable {A : Arithmetic} {σ τ : Type}

namespace Op

@[simp] theorem operands_reread (op : Op A) : op.reread.operands = op.operands := by
  cases op <;> rfl

end Op

namespace Program

variable {p : Program A}

theorem getElem?_reread {index : Nat} {i : Instruction A} :
    p.reread.instructions[index]? = some i ↔
      ∃ j, p.instructions[index]? = some j ∧ j.reread = i := by
  simp [reread]

theorem valueShape?_reread (p : Program A) (v : Nat) :
    p.reread.valueShape? v = p.valueShape? v := by
  unfold valueShape?
  rw [reread, Array.getElem?_map, Option.map_map]
  rfl

theorem Implies.reread {op : Op A} {s : Shape} (implies : p.Implies op s) :
    p.reread.Implies op.reread s := by
  have same := p.valueShape?_reread
  cases implies with
  | scale operand => exact .scale ((same _).trans operand)
  | noise operand => exact .noise ((same _).trans operand)
  | slice operand even => exact .slice ((same _).trans operand) even
  | add left right => exact .add ((same _).trans left) ((same _).trans right)
  | sub left right => exact .sub ((same _).trans left) ((same _).trans right)
  | concat left right stacked fits =>
      exact .concat ((same _).trans left) ((same _).trans right) stacked fits
  | unet operand condition rows =>
      exact .unet ((same _).trans operand) ((same _).trans condition) rows

theorem WellTyped.reread (typed : p.WellTyped) : p.reread.WellTyped where
  ordered index i found v member := by
    obtain ⟨j, there, rfl⟩ := getElem?_reread.mp found
    exact typed.ordered index j there v (j.op.operands_reread ▸ member)
  declared index i found := by
    obtain ⟨j, there, rfl⟩ := getElem?_reread.mp found
    exact (typed.declared index j there).reread
  output := by
    have count : p.reread.numValues = p.numValues := by simp [numValues, Program.reread]
    rw [count]
    exact typed.output

theorem valid_reread (valid : p.Valid) : p.reread.Valid :=
  p.reread.valid_iff_wellTyped.mpr (p.valid_iff_wellTyped.mp valid).reread

/-! ### Execution -/

variable (widens : A.WidensExactly) (keeps : A.KeepsElements) (B : Backend A σ τ)

include widens keeps

theorem perform_reread {op : Op A} (exact : op.Exact) (values : Array (Option τ)) :
    perform B values op.reread = perform B values op := by
  cases op with
  | scale input factor =>
      obtain ⟨x, rfl⟩ := exact input factor rfl
      have same : A.narrow ((A.rereadWide? (A.widen x)).getD (A.widen x)) =
          A.narrow (A.widen x) := by
        cases came : A.rereadWide? (A.widen x) with
        | none => rfl
        | some y => exact (keeps.2 x y came).trans (widens x).symm
      simp only [Op.reread, perform, same]
  | unet sample conditioning timestep =>
      have same : (A.reread? timestep).getD timestep = timestep := by
        cases came : A.reread? timestep with
        | none => rfl
        | some t => exact keeps.1 timestep t came
      rw [Op.reread, same]
  | add | sub | concat | slice | noise => rfl

theorem retain_reread {is : List (Instruction A)} (exact : ∀ i ∈ is, i.op.Exact)
    (values : Array τ) : retain B (is.map Instruction.reread) values = retain B is values := by
  induction is generalizing values with
  | nil => rfl
  | cons i rest ih =>
      obtain ⟨here, later⟩ := List.forall_mem_cons.mp exact
      have performs : performDeclared B (values.map some) values.size i.reread =
          performDeclared B (values.map some) values.size i := by
        rw [performDeclared, performDeclared, Instruction.reread,
          perform_reread widens keeps B here]
      rw [List.map_cons, retain, retain, performs]
      congr 1
      funext result
      exact ih later (values.push result)

/-- What comes back of a program whose factors are elements does the same on every backend. -/
theorem execute_reread (exact : ∀ i ∈ p.instructions, i.op.Exact) (inputs : List τ) :
    p.reread.execute B inputs = p.execute B inputs := by
  have same : retain B p.reread.instructions.toList inputs.toArray =
      retain B p.instructions.toList inputs.toArray := by
    rw [reread, Array.toList_map]
    exact retain_reread widens keeps B
      (fun i member => exact i (Array.mem_toList_iff.mp member)) _
  rw [execute_eq_retaining, execute_eq_retaining, executeRetaining, executeRetaining, same]
  rfl

end Program

end Diffusion
