import Diffusion.Program.Footprint
import Diffusion.Proofs.Distinct
import Diffusion.Proofs.Program.Retention
import Diffusion.Proofs.Program.Typing
import Mathlib.Algebra.Order.BigOperators.Group.Finset
import Mathlib.Algebra.Order.Ring.Nat
import Mathlib.Data.Finset.Lattice.Fold
import Mathlib.Order.Lattice.Nat

/-!
Which values are live, and how many bytes they take.

Here bytes are numbers without a limit, and a value lives until the last instruction that reads it,
whatever a table says. Main statements: `bytesWith_store` and `bytesWith_release`, by which the live
bytes follow from one instruction to the next.
-/

namespace Diffusion

/-- The bytes of a value of a shape. -/
def Shape.bytes (s : Shape) : Nat := s.volume * Program.elementBytes

namespace Program

variable {A : Arithmetic} (p : Program A)

/-- The bytes of a value; none if the program does not have it. -/
def bytesOf (v : Nat) : Nat := ((p.valueShape? v).map Shape.bytes).getD 0

def totalBytes : Nat := (p.shapes.map Shape.bytes).sum

/-! ### Last readers -/

theorem of_lastReader? {value index k : Nat} {is : List (Instruction A)}
    (found : lastReader? value index is = some k) :
    ∃ j i, is[j]? = some i ∧ k = index + j ∧ value ∈ i.op.operands := by
  induction is generalizing index with
  | nil => simp [lastReader?] at found
  | cons first rest ih =>
      rw [lastReader?, Option.or_eq_some_iff] at found
      rcases found with later | ⟨-, here⟩
      · obtain ⟨j, i, position, rfl, reads⟩ := ih later
        exact ⟨j + 1, i, by simpa using position, by omega, reads⟩
      · split at here
        · rename_i reads
          exact ⟨0, first, rfl, (Option.some.inj here).symm, reads⟩
        · contradiction

/-- Whether a value is released after an instruction: it is not the result, and the instruction is
the last one that reads it. -/
def Dies (index v : Nat) : Prop :=
  lastReader? v 0 p.instructions.toList = some index ∧ v ≠ p.output

instance (index v : Nat) : Decidable (p.Dies index v) := instDecidableAnd

/-- Whether a value is released by the time that the instructions before an index are done. -/
def Released (index v : Nat) : Prop := ∃ k < index, p.Dies k v

instance (index v : Nat) : Decidable (p.Released index v) :=
  inferInstanceAs (Decidable (∃ k, k < index ∧ p.Dies k v))

theorem Dies.operand {p : Program A} {index v : Nat} {i : Instruction A} (dies : p.Dies index v)
    (found : p.instructions[index]? = some i) : v ∈ i.op.operands := by
  obtain ⟨j, i', position, same, reads⟩ := of_lastReader? dies.1
  rw [Nat.zero_add] at same
  rw [← same, Array.getElem?_toList, found, Option.some.injEq] at position
  exact position ▸ reads

theorem Dies.lt {p : Program A} (typed : p.WellTyped) {index v : Nat} (dies : p.Dies index v) :
    v < p.inputs.size + index := by
  obtain ⟨j, i, position, same, reads⟩ := of_lastReader? dies.1
  rw [Nat.zero_add] at same
  rw [Array.getElem?_toList, ← same] at position
  exact typed.ordered index i position v reads

theorem Released.lt {p : Program A} (typed : p.WellTyped) {index v : Nat}
    (released : p.Released index v) : v < p.inputs.size + index := by
  obtain ⟨k, before, dies⟩ := released
  have := dies.lt typed
  omega

theorem released_zero (v : Nat) : ¬ p.Released 0 v := by
  intro released
  obtain ⟨k, before, -⟩ := released
  exact Nat.not_lt_zero k before

theorem released_succ {index v : Nat} :
    p.Released (index + 1) v ↔ p.Released index v ∨ p.Dies index v := by
  simp only [Released, Nat.lt_succ_iff_lt_or_eq, or_and_right, exists_or, exists_eq_left]

theorem Dies.index_unique {p : Program A} {index k v : Nat} (dies : p.Dies index v)
    (other : p.Dies k v) : index = k :=
  Option.some.inj (dies.1.symm.trans other.1)

theorem Dies.not_released {p : Program A} {index v : Nat} (dies : p.Dies index v) :
    ¬ p.Released index v := by
  intro released
  obtain ⟨k, before, other⟩ := released
  exact absurd before (dies.index_unique other ▸ Nat.lt_irrefl k)

/-! ### Live bytes -/

/-- The bytes of the values stored with the results of some instructions, less those that are
released after some instructions. -/
def bytesWith (released stored : Nat) : Nat :=
  ∑ v ∈ Finset.range (p.inputs.size + stored) with ¬ p.Released released v, p.bytesOf v

/-- The operands that are released after an instruction, each once. -/
def releasedBy (index : Nat) (i : Instruction A) : List Nat :=
  i.op.operands.eraseDups.filter (p.Dies index)

theorem nodup_releasedBy (index : Nat) (i : Instruction A) : (p.releasedBy index i).Nodup :=
  (nodup_eraseDups _).filter _

theorem dies_of_mem_releasedBy {index v : Nat} {i : Instruction A}
    (member : v ∈ p.releasedBy index i) : p.Dies index v :=
  of_decide_eq_true (List.mem_filter.mp member).2

theorem bytesWith_store (typed : p.WellTyped) (index : Nat) :
    p.bytesWith index (index + 1) =
      p.bytesWith index index + p.bytesOf (p.inputs.size + index) := by
  have newest : ¬ p.Released index (p.inputs.size + index) :=
    fun released => Nat.lt_irrefl _ (released.lt typed)
  rw [bytesWith, bytesWith, ← Nat.add_assoc, Finset.range_add_one, Finset.filter_insert,
    if_pos newest, Finset.sum_insert (by simp), Nat.add_comm]

/-- Releases take the bytes of what they release. -/
theorem bytesWith_release (typed : p.WellTyped) {index : Nat} {i : Instruction A}
    (found : p.instructions[index]? = some i) (stored : Nat) (after : index ≤ stored) :
    p.bytesWith (index + 1) stored + ((p.releasedBy index i).map p.bytesOf).sum =
      p.bytesWith index stored := by
  have dying : (p.releasedBy index i).toFinset =
      {v ∈ Finset.range (p.inputs.size + stored) | p.Dies index v} := by
    ext v
    simp only [releasedBy, List.mem_toFinset, List.mem_filter, List.mem_eraseDups,
      decide_eq_true_eq, Finset.mem_filter, Finset.mem_range]
    constructor
    · intro both
      have := both.2.lt typed
      exact ⟨by omega, both.2⟩
    · intro both
      exact ⟨both.2.operand found, both.2⟩
  -- What is live before the releases is split into what dies here and what goes on.
  rw [← List.sum_toFinset _ (p.nodup_releasedBy index i), dying, bytesWith, bytesWith]
  rw [← Finset.sum_filter_add_sum_filter_not
    {v ∈ Finset.range (p.inputs.size + stored) | ¬ p.Released index v} (p.Dies index)]
  rw [Finset.filter_filter, Finset.filter_filter, Nat.add_comm]
  congr 1
  · refine Finset.sum_congr (Finset.filter_congr fun v _ => ?_) fun _ _ => rfl
    exact ⟨fun dies => ⟨dies.not_released, dies⟩, fun both => both.2⟩
  · refine Finset.sum_congr (Finset.filter_congr fun v _ => ?_) fun _ _ => rfl
    rw [released_succ, not_or]

/-- The bytes held at the start, and at every later moment right after one more result is stored and
before anything is released for it. -/
def liveBytes : Nat → Nat
  | 0 => p.bytesWith 0 0
  | index + 1 => p.bytesWith index (index + 1)

/-- The largest number of bytes that a replay holds at once. -/
def peakBytes : Nat := (Finset.range (p.instructions.size + 1)).sup p.liveBytes

theorem bytesWith_zero (stored : Nat) :
    p.bytesWith 0 stored = ∑ v ∈ Finset.range (p.inputs.size + stored), p.bytesOf v := by
  rw [bytesWith, Finset.filter_true_of_mem fun v _ => p.released_zero v]

theorem liveBytes_zero : p.liveBytes 0 = (p.inputs.toList.map (·.shape.bytes)).sum := by
  have sizes : p.inputs.toList.map (·.shape.bytes) =
      (List.range p.inputs.size).map p.bytesOf := by
    apply List.ext_getElem
    · simp
    · intro v inside _
      rw [List.length_map, Array.length_toList] at inside
      simp [bytesOf, p.valueShape?_input inside]
  rw [liveBytes, bytesWith_zero, sizes]
  rfl

theorem totalBytes_eq : p.totalBytes = ∑ v ∈ Finset.range p.numValues, p.bytesOf v := by
  have sizes : p.shapes.map Shape.bytes = (List.range p.numValues).map p.bytesOf := by
    apply List.ext_getElem
    · simp [length_shapes]
    · intro v inside _
      rw [List.length_map] at inside
      simp [bytesOf, valueShape?_eq_shapes, List.getElem?_eq_getElem inside]
  rw [totalBytes, sizes]
  rfl

theorem peakBytes_le_totalBytes : p.peakBytes ≤ p.totalBytes := by
  have part : ∀ released stored, stored ≤ p.instructions.size →
      p.bytesWith released stored ≤ p.totalBytes := by
    intro released stored inside
    rw [totalBytes_eq]
    refine Finset.sum_le_sum_of_subset fun v member => ?_
    have := Finset.mem_range.mp (Finset.mem_filter.mp member).1
    exact Finset.mem_range.mpr (by rw [numValues]; omega)
  refine Finset.sup_le fun moment member => ?_
  have inside := Finset.mem_range.mp member
  cases moment with
  | zero => exact part 0 0 (Nat.zero_le _)
  | succ index => exact part index (index + 1) (Nat.le_of_lt_succ inside)

end Program

end Diffusion
