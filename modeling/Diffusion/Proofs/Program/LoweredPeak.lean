import Diffusion.Proofs.Program.Counting
import Diffusion.Proofs.Program.NormalForm

/-!
Lowering never raises the peak of live bytes.

A copy that is left out may end the life of what it copies later. But as long as the lowered program
keeps a value, the program keeps that value or one of its copies, which has the same size; and
different values have different copies. What is never read would be kept to the end, so every input
has to be needed. Main statement: `exists_lower_peak`.
-/

namespace Diffusion.Program

open Halt (wordLimit)

variable {A : Arithmetic} {p q : Program A} {table : Array Nat} {index k m v w : Nat}

/-! ### Values that are still to be read -/

/-- Whether a value is still to be read once the instructions before an index are done: it is the
result, or an operand from there on. -/
def Awaited (p : Program A) (index v : Nat) : Prop :=
  v = p.output ∨ ∃ k i, index ≤ k ∧ p.instructions[k]? = some i ∧ v ∈ i.op.operands

theorem Awaited.not_released (awaited : p.Awaited index v) : ¬ p.Released index v := by
  rintro ⟨early, before, last, other⟩
  rcases awaited with result | ⟨k, i, after, found, reads⟩
  · exact other result
  · obtain ⟨late, latest, le⟩ := le_lastReader? 0 (show p.instructions.toList[k]? = some i by
      simpa using found) reads
    rw [last, Option.some.injEq] at latest
    omega

/-- A needed value is kept only for what is still to be read. -/
theorem awaited_of_needs (needs : p.Needs p.output v) (kept : ¬ p.Released index v) :
    p.Awaited index v := by
  rcases Relation.ReflTransGen.cases_tail needs with result | ⟨_, -, k, i, found, -, reads⟩
  · exact .inl result
  · by_cases result : v = p.output
    · exact .inl result
    · obtain ⟨late, latest, -⟩ := le_lastReader? 0 (show p.instructions.toList[k]? = some i by
        simpa using found) reads
      obtain ⟨j, reader, there, same, readsLate⟩ := of_lastReader? latest
      rw [Nat.zero_add] at same
      rw [Array.getElem?_toList, ← same] at there
      refine .inr ⟨late, reader, Nat.le_of_not_lt fun early => kept ?_, there, readsLate⟩
      exact ⟨late, early, latest, result⟩

/-! ### Copies that are kept -/

/-- A sum is at most another one, if for each of its terms there is one of the same amount in the
other, told apart by a tag. -/
theorem sum_le_sum_of_tagged {S T : Finset Nat} {amount amount' place tag : Nat → Nat}
    (injective : Function.Injective place)
    (stands : ∀ w ∈ S, ∃ u ∈ T, tag u = place w ∧ amount' u = amount w) :
    ∑ w ∈ S, amount w ≤ ∑ u ∈ T, amount' u := by
  choose! stand member same equal using stands
  have apart : Set.InjOn stand S := fun w here w' there equal =>
    injective ((same w here).symm.trans ((congrArg tag equal).trans (same w' there)))
  calc ∑ w ∈ S, amount w
      = ∑ w ∈ S, amount' (stand w) := Finset.sum_congr rfl fun w here => (equal w here).symm
    _ = ∑ u ∈ S.image stand, amount' u := (Finset.sum_image apart).symm
    _ ≤ ∑ u ∈ T, amount' u :=
        Finset.sum_le_sum_of_subset (Finset.image_subset_iff.mpr member)

namespace Forwards

variable (forwards : p.Forwards table) (wellTyped : p.WellTyped)

include forwards wellTyped

/-- As long as a copy of an early value is awaited, that value or an early copy of it is kept. -/
theorem exists_kept (awaited : p.Awaited k v) (inside : v < p.numValues)
    (early : table.getD v v < p.inputs.size + (k + 1)) :
    ∃ u < p.inputs.size + (k + 1), ¬ p.Released k u ∧ table.getD u u = table.getD v v := by
  induction v using Nat.strongRecOn with
  | ind v ih =>
      by_cases before : v < p.inputs.size + (k + 1)
      · exact ⟨v, before, awaited.not_released, rfl⟩
      · -- A later copy reads what it copies, which is awaited for that.
        rcases input_or_instruction inside with input | ⟨l, i, rfl, found⟩
        · omega
        · by_cases copy : ∃ input, i.op.Copies input
          · obtain ⟨input, copies⟩ := copy
            have earlier := (wellTyped.operand_of_copies found copies).1
            rw [forwards.resolves.copy l i input found copies] at early ⊢
            obtain ⟨factor, op, -⟩ := copies
            exact ih input earlier
              (.inr ⟨l, i, by omega, found, by simp [op, Op.operands]⟩)
              (earlier.trans inside) early
          · rw [forwards.resolves.own l i found (not_exists.mp copy)] at early
            omega

/-- What the lowered program awaits is the target of a value that the program awaits. -/
theorem exists_awaited
    (place : (p.redirectedBy table).place (p.inputs.size + m) = p.inputs.size + k)
    (awaited : (p.redirectedBy table).pruned.Awaited m w) :
    ∃ v < p.numValues, p.Awaited k v ∧ table.getD v v = (p.redirectedBy table).place w := by
  have renumbered := (forwards.ordered wellTyped).renumbered_pruned
  rcases awaited with rfl | ⟨m', i, after, found, reads⟩
  · exact ⟨p.output, wellTyped.output, .inl rfl, renumbered.output⟩
  · obtain ⟨k', j, place', there, -, same⟩ := forwards.exists_left wellTyped found
    have later := (strictMono_place (p.redirectedBy table)).monotone
      (Nat.add_le_add_left after p.inputs.size)
    rw [place, place'] at later
    have member : (p.redirectedBy table).place w ∈
        (i.renamed (p.redirectedBy table).place).op.operands := by
      rw [Instruction.renamed, Op.operands_mapOperands]
      exact List.mem_map_of_mem reads
    rw [same, Instruction.renamed, Op.operands_mapOperands] at member
    obtain ⟨v, operand, target⟩ := List.mem_map.mp member
    exact ⟨v, (wellTyped.ordered k' j there v operand).trans (lt_numValues there),
      .inr ⟨k', j, by omega, there, operand⟩, target⟩

/-- Where every input is needed, every value of the lowered program is. -/
theorem needs_lowered (needed : ∀ v < p.inputs.size, p.Needs p.output v)
    (inside : w < (p.redirectedBy table).pruned.numValues) :
    (p.redirectedBy table).pruned.Needs (p.redirectedBy table).pruned.output w := by
  have ordered := forwards.ordered wellTyped
  by_cases input : w < p.inputs.size
  · have marked := marked_of_needs wellTyped forwards.resolves forwards.redirects_back
      forwards.size (needed w input)
    rw [← marks_redirectedBy, getD_forwarding_input wellTyped forwards.forwarded input] at marked
    refine ordered.needs_of_marked ?_
    rwa [place_input (p := p.redirectedBy table) input]
  · exact ordered.needs_pruned (Nat.le_of_not_lt input) inside

theorem bytesOf_lowered (inside : w < (p.redirectedBy table).pruned.numValues) :
    (p.redirectedBy table).pruned.bytesOf w = p.bytesOf ((p.redirectedBy table).place w) := by
  rw [bytesOf, bytesOf, (forwards.ordered wellTyped).valueShape?_pruned inside,
    valueShape?_redirectedBy]

/-- Right after it stores a result, the lowered program has no more live bytes than the program
right after it stores the same one. -/
theorem liveBytes_lowered_le (needed : ∀ v < p.inputs.size, p.Needs p.output v)
    (placed : (p.redirectedBy table).place (p.inputs.size + m) = p.inputs.size + k)
    (inside : m < (p.redirectedBy table).pruned.instructions.size) :
    (p.redirectedBy table).pruned.liveBytes (m + 1) ≤ p.liveBytes (k + 1) := by
  have increasing := strictMono_place (p.redirectedBy table)
  rw [liveBytes, liveBytes, bytesWith, bytesWith]
  apply sum_le_sum_of_tagged increasing.injective
  intro w member
  obtain ⟨early, kept⟩ := Finset.mem_filter.mp member
  have early : w < p.inputs.size + (m + 1) := Finset.mem_range.mp early
  have left : w < (p.redirectedBy table).pruned.numValues :=
    early.trans_le (Nat.add_le_add_left inside _)
  obtain ⟨v, bound, awaited, target⟩ := forwards.exists_awaited wellTyped placed
    (awaited_of_needs (forwards.needs_lowered wellTyped needed left) kept)
  have earlyPlace := increasing.monotone (show w ≤ p.inputs.size + m by omega)
  obtain ⟨u, earlyCopy, alive, same⟩ := forwards.exists_kept wellTyped awaited bound (by omega)
  have copy : u < p.numValues := by
    have stored := place_lt_numValues_iff (p := p.redirectedBy table).mpr
      (Nat.add_lt_add_left inside p.inputs.size)
    rw [placed, numValues_redirectedBy] at stored
    omega
  refine ⟨u, Finset.mem_filter.mpr ⟨Finset.mem_range.mpr earlyCopy, alive⟩, same.trans target, ?_⟩
  rw [forwards.bytesOf_lowered wellTyped left, ← target, ← same, bytesOf, bytesOf,
    forwards.shape_target copy]

theorem peakBytes_lowered_le (needed : ∀ v < p.inputs.size, p.Needs p.output v) :
    (p.redirectedBy table).pruned.peakBytes ≤ p.peakBytes := by
  refine Finset.sup_le fun moment member => ?_
  have within := Finset.mem_range.mp member
  cases moment with
  | zero =>
      refine le_trans (Nat.le_of_eq ?_) (Finset.le_sup (Finset.mem_range.mpr (Nat.succ_pos _)))
      rw [liveBytes_zero, liveBytes_zero]
      rfl
  | succ m =>
      have inside := Nat.lt_of_succ_lt_succ within
      obtain ⟨k, j, placed, found, -⟩ :=
        forwards.exists_left wellTyped (Array.getElem?_eq_getElem inside)
      have bound := (Array.getElem?_eq_some_iff.mp found).1
      exact (forwards.liveBytes_lowered_le wellTyped needed placed inside).trans
        (Finset.le_sup (Finset.mem_range.mpr (Nat.succ_lt_succ bound)))

/-- The values that are left have sizes that the values of the program have. -/
theorem shapes_lowered_subset : (p.redirectedBy table).pruned.shapes ⊆ p.shapes := by
  intro s member
  obtain ⟨w, found⟩ := List.mem_iff_getElem?.mp member
  have inside : w < (p.redirectedBy table).pruned.numValues := by
    rw [← length_shapes]
    exact (List.getElem?_eq_some_iff.mp found).1
  rw [← valueShape?_eq_shapes, (forwards.ordered wellTyped).valueShape?_pruned inside,
    valueShape?_redirectedBy, valueShape?_eq_shapes] at found
  exact List.mem_of_getElem? found

end Forwards

/-! ### The peak -/

/-- A checked program that needs all of its inputs is lowered to one whose peak of live bytes is not
larger. Whenever the first peak can be counted in words, so can the second, and the first can
be as long as the sizes of all values together can. -/
theorem exists_lower_peak (valid : p.Valid) (needed : ∀ v < p.inputs.size, p.Needs p.output v) :
    ∃ q, p.lower = .ok q ∧ q.peakBytes ≤ p.peakBytes ∧
      (∀ total, p.totalValueBytes = .ok total → ∃ peak, p.peakLiveBytes = .ok peak) ∧
      ∀ peak, p.peakLiveBytes = .ok peak → ∃ lowered ≤ peak, q.peakLiveBytes = .ok lowered := by
  have wellTyped := p.valid_iff_wellTyped.mp valid
  obtain ⟨table, forwards⟩ := wellTyped.exists_forwards
  have counts := peakLiveBytes_counts wellTyped
  have counts' := peakLiveBytes_counts (forwards.wellTyped_pruned wellTyped)
  have le := forwards.peakBytes_lowered_le wellTyped needed
  refine ⟨_, forwards.lower_eq wellTyped, le,
    fun total counted => ⟨_, counts.exact (countable_of_totalValueBytes counted)⟩,
    fun peak counted => ?_⟩
  obtain ⟨⟨sizes, fits⟩, rfl⟩ := counts.of_ok counted
  exact ⟨_, le, counts'.exact ⟨fun s member =>
    sizes s (forwards.shapes_lowered_subset wellTyped member), le.trans_lt fits⟩⟩

end Diffusion.Program
