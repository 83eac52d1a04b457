import Diffusion.Proofs.Program.Renumbering
import Mathlib.Data.Nat.Nth

/-!
Where the values of a pruned program come from.

The values that stay are the inputs and what the result needs. Each gets as its number how many stay
before it, so the way back from a number is to the value that stays with that many before it. Main
statement: `Ordered.renumbered_pruned`, by which a program is the pruned one renumbered, with what
was left out in between.
-/

namespace Diffusion.Program

variable {A : Arithmetic} {p : Program A} {v w k : Nat}

/-- Whether a value keeps its place: it is an input or marked. What is no value of the program
counts too, so that there is no last place. -/
def Stays (p : Program A) (v : Nat) : Prop :=
  v < p.inputs.size ∨ Marked p.marks v ∨ p.numValues ≤ v

instance : DecidablePred p.Stays := fun v =>
  inferInstanceAs (Decidable (v < p.inputs.size ∨ p.marks.getD v false = true ∨ p.numValues ≤ v))

/-- How many values stay before a value. -/
def number (p : Program A) (v : Nat) : Nat := Nat.count p.Stays v

/-- The value that stays with so many before it. -/
noncomputable def place (p : Program A) (w : Nat) : Nat := Nat.nth p.Stays w

theorem infinite_stays (p : Program A) : (Set.ofPred p.Stays).Infinite :=
  Set.infinite_of_forall_exists_gt fun v =>
    ⟨p.numValues + v + 1, .inr (.inr (by omega)), by omega⟩

theorem strictMono_place (p : Program A) : StrictMono p.place := Nat.nth_strictMono p.infinite_stays

theorem stays_place (p : Program A) (w : Nat) : p.Stays (p.place w) :=
  Nat.nth_mem_of_infinite p.infinite_stays w

@[simp] theorem number_place (p : Program A) (w : Nat) : p.number (p.place w) = w :=
  Nat.count_nth_of_infinite p.infinite_stays w

theorem place_number (stays : p.Stays v) : p.place (p.number v) = v := Nat.nth_count stays

theorem number_input (input : v ≤ p.inputs.size) : p.number v = v :=
  Nat.count_iff_forall.mpr fun _ before => .inl (Nat.lt_of_lt_of_le before input)

theorem place_input (input : v < p.inputs.size) : p.place v = v := by
  rw [← number_input input.le, place_number (.inl input), number_input input.le]

theorem number_succ (stays : p.Stays v) : p.number (v + 1) = p.number v + 1 :=
  Nat.count_succ_eq_succ_count_iff.mpr stays

theorem number_succ_spare (spare : ¬ p.Stays v) : p.number (v + 1) = p.number v :=
  Nat.count_succ_eq_count_iff.mpr spare

theorem stays_iff_marked (above : p.inputs.size ≤ v) (inside : v < p.numValues) :
    p.Stays v ↔ Marked p.marks v := by
  unfold Stays
  constructor
  · rintro (input | marked | outside)
    · omega
    · exact marked
    · omega
  · exact fun marked => .inr (.inl marked)

/-! ### Numbers -/

/-- Up to some value, each value that stays has its number. -/
structure Kept.Numbered (p : Program A) (value : Nat) (kept : Kept A) : Prop where
  next : p.inputs.size + kept.instructions.size = p.number value
  names : ∀ v < value, p.Stays v → kept.numbers[v]? = some (some (p.number v))

theorem Kept.Numbered.keep {value : Nat} {kept : Kept A} (numbered : kept.Numbered p value)
    (stays : p.Stays value) (room : value < kept.numbers.size) (i : Instruction A) :
    (kept.keep p.inputs.size value i).Numbered p (value + 1) := by
  constructor
  · rw [number_succ stays, ← numbered.next]
    change p.inputs.size + (kept.instructions.push _).size = _
    rw [Array.size_push, Nat.add_assoc]
  · intro v before stays
    change (kept.numbers.setIfInBounds value (some _))[v]? = _
    rcases Nat.lt_succ_iff_lt_or_eq.mp before with earlier | rfl
    · rw [Array.getElem?_setIfInBounds_ne (Nat.ne_of_gt earlier), numbered.names v earlier stays]
    · rw [Array.getElem?_setIfInBounds_self_of_lt room, numbered.next]

theorem Kept.Numbered.skip {value : Nat} {kept : Kept A} (numbered : kept.Numbered p value)
    (spare : ¬ p.Stays value) : kept.Numbered p (value + 1) := by
  refine ⟨numbered.next.trans (number_succ_spare spare).symm, fun v before stays => ?_⟩
  rcases Nat.lt_succ_iff_lt_or_eq.mp before with earlier | rfl
  · exact numbered.names v earlier stays
  · exact absurd stays spare

theorem keepFrom_numbered {is : List (Instruction A)} {value : Nat} {kept : Kept A}
    (numbered : kept.Numbered p value) (above : p.inputs.size ≤ value)
    (inside : value + is.length ≤ p.numValues) (room : value + is.length ≤ kept.numbers.size) :
    (keepFrom p.inputs.size p.marks value is kept).Numbered p (value + is.length) := by
  induction is generalizing value kept with
  | nil => exact numbered
  | cons i rest ih =>
      rw [List.length_cons] at inside room ⊢
      have marked := stays_iff_marked above (show value < p.numValues by omega)
      rw [show value + (rest.length + 1) = value + 1 + rest.length by omega]
      by_cases stays : p.Stays value
      · rw [keepFrom_marked (marked.mp stays)]
        exact ih (numbered.keep stays (by omega) i) (by omega) (by omega)
          (by rw [Kept.size_keep]; omega)
      · rw [keepFrom_spare (stays ∘ marked.mpr)]
        exact ih (numbered.skip stays) (by omega) (by omega) (by omega)

/-- What is kept of a program. -/
def kept (p : Program A) : Kept A :=
  keepFrom p.inputs.size p.marks p.inputs.size p.instructions.toList p.keptInputs

theorem numbered_keptInputs (p : Program A) : p.keptInputs.Numbered p p.inputs.size := by
  refine ⟨(number_input le_rfl).symm, fun v input _ => ?_⟩
  rw [number_input input.le]
  simp [keptInputs, numValues, input, Nat.lt_add_right]

theorem numbered_kept (p : Program A) : p.kept.Numbered p p.numValues := by
  have total : p.inputs.size + p.instructions.toList.length = p.numValues := by
    rw [Array.length_toList, numValues]
  rw [← total]
  exact keepFrom_numbered p.numbered_keptInputs le_rfl (Nat.le_of_eq total)
    (Nat.le_of_eq p.size_keptInputs.symm)

theorem rename_kept (stays : p.Stays v) (inside : v < p.numValues) :
    p.kept.rename v = p.number v :=
  Kept.rename_of_number (p.numbered_kept.names v inside stays)

theorem numValues_pruned (p : Program A) : p.pruned.numValues = p.number p.numValues :=
  p.numbered_kept.next

/-- The pruned program ends where the program ends. -/
theorem place_numValues (p : Program A) : p.place p.pruned.numValues = p.numValues := by
  rw [numValues_pruned, place_number (.inr (.inr le_rfl))]

theorem place_lt_numValues_iff : p.place w < p.numValues ↔ w < p.pruned.numValues := by
  rw [← place_numValues]
  exact p.strictMono_place.lt_iff_lt

theorem marked_place (above : p.inputs.size ≤ w) (inside : w < p.pruned.numValues) :
    Marked p.marks (p.place w) :=
  (stays_iff_marked (above.trans p.strictMono_place.le_apply)
    (place_lt_numValues_iff.mpr inside)).mp (p.stays_place w)

/-! ### Instructions -/

/-- The rows of instructions of the pruned program and of the program, from some place on. -/
theorem Ordered.renumbers_markedOnes (ordered : p.Ordered) {is : List (Instruction A)}
    (suffix : ∀ j, is[j]? = p.instructions[k + j]?) :
    Renumbers (fun _ => True) p.place (p.number (p.inputs.size + k)) (p.inputs.size + k)
      ((markedOnes p.marks (p.inputs.size + k) is).map (·.renamed p.kept.rename)) is := by
  induction is generalizing k with
  | nil => exact .nil
  | cons i rest ih =>
      have found : p.instructions[k]? = some i := (suffix 0).symm
      have inside := lt_numValues found
      have marked := stays_iff_marked (Nat.le_add_right p.inputs.size k) inside
      have later := @ih (k + 1) fun j => by
        rw [← List.getElem?_cons_succ, suffix, Nat.add_right_comm, Nat.add_assoc]
      rw [← Nat.add_assoc] at later
      rw [markedOnes]
      by_cases stays : p.Stays (p.inputs.size + k)
      · rw [if_pos (show p.marks.getD _ false = true from marked.mp stays), List.map_cons]
        rw [number_succ stays] at later
        have row := Renumbers.keep (i := i.renamed p.kept.rename) (place_number stays) later
        -- The operands are marked too, so the way to their numbers leads back.
        have back : (i.renamed p.kept.rename).renamed p.place = i := by
          rw [Instruction.renamed_renamed]
          refine Instruction.renamed_eq_self fun v member => ?_
          have staysOperand : p.Stays v :=
            .inr (.inl (ordered.marked_operand found (marked.mp stays) v member))
          have before := ordered.operands k i found v member
          rw [Function.comp_apply, rename_kept staysOperand (before.trans inside),
            place_number staysOperand]
        rwa [back] at row
      · rw [if_neg (show ¬ p.marks.getD _ false = true from stays ∘ marked.mpr)]
        rw [number_succ_spare stays] at later
        exact .spare (fun w same => stays (same ▸ p.stays_place w)) trivial later

/-- A program is the pruned one renumbered, with what was left out in between. -/
theorem Ordered.renumbered_pruned (ordered : p.Ordered) :
    Renumbered (fun _ => True) p.place p.pruned p where
  inputs := rfl
  fixed _ input := place_input input
  instructions := by
    obtain ⟨-, left⟩ := keepFrom_instructions p.inputs.size p.inputs.size p.marks
      p.instructions.toList p.keptInputs fun j i found =>
        ordered.operands j i (by simpa using found)
    have whole (j : Nat) : p.instructions.toList[j]? = p.instructions[0 + j]? := by simp
    have row := ordered.renumbers_markedOnes whole
    rw [Nat.add_zero, number_input le_rfl] at row
    change Renumbers _ _ _ _ p.kept.instructions.toList _
    rw [kept, left]
    exact row
  output := by
    have stays : p.Stays p.output := .inr (.inl ordered.marked_output)
    change p.output = p.place (p.kept.rename p.output)
    rw [rename_kept stays ordered.output, place_number stays]

/-- Each instruction of the pruned program is one of the program. -/
theorem Ordered.exists_placed (ordered : p.Ordered) {m : Nat} {i : Instruction A}
    (found : p.pruned.instructions[m]? = some i) :
    ∃ k, p.place (p.inputs.size + m) = p.inputs.size + k ∧
      p.instructions[k]? = some (i.renamed p.place) :=
  ordered.renumbered_pruned.exists_instruction found

theorem Ordered.pruned (ordered : p.Ordered) : p.pruned.Ordered where
  operands m i found w member := by
    obtain ⟨k, name, there⟩ := ordered.exists_placed found
    have before := ordered.operands k _ there (p.place w) <| by
      rw [Instruction.renamed, Op.operands_mapOperands]
      exact List.mem_map_of_mem member
    rw [← name] at before
    exact p.strictMono_place.lt_iff_lt.mp before
  output := by
    rw [← place_lt_numValues_iff, ← ordered.renumbered_pruned.output]
    exact ordered.output

/-- Pruning once is enough. -/
theorem Ordered.pruned_pruned (ordered : p.Ordered) : p.pruned.pruned = p.pruned :=
  (ordered.renumbered_pruned.pruned_eq ordered.pruned ordered).symm

/-- What is marked is needed in the pruned program. -/
theorem Ordered.needs_of_marked (ordered : p.Ordered) (marked : Marked p.marks (p.place w)) :
    p.pruned.Needs p.pruned.output w := by
  have reached : ∃ u, p.place u = p.place w ∧ p.pruned.Needs p.pruned.output u := by
    refine of_marked (P := fun v => ∃ u, p.place u = v ∧ p.pruned.Needs p.pruned.output u)
      ⟨_, ordered.renumbered_pruned.output.symm, .refl⟩ ?_ marked
    rintro k j found ⟨u, name, needs⟩ _ operand
    have insideHere : u < p.pruned.numValues :=
      place_lt_numValues_iff.mp (name ▸ lt_numValues found)
    rcases input_or_instruction insideHere with input | ⟨m, i, rfl, here⟩
    · have input : u < p.inputs.size := input
      rw [place_input input] at name
      omega
    · obtain ⟨k', name', there⟩ := ordered.exists_placed here
      obtain rfl : k' = k := Nat.add_left_cancel (name'.symm.trans name)
      cases found.symm.trans there
      rw [Instruction.renamed, Op.operands_mapOperands] at operand
      obtain ⟨t, member, rfl⟩ := List.mem_map.mp operand
      exact ⟨t, rfl, needs.tail ⟨m, i, here, rfl, member⟩⟩
  obtain ⟨u, same, needs⟩ := reached
  rwa [p.strictMono_place.injective same] at needs

/-- Every instruction of the pruned program is needed for its result. -/
theorem Ordered.needs_pruned (ordered : p.Ordered) (above : p.inputs.size ≤ w)
    (inside : w < p.pruned.numValues) : p.pruned.Needs p.pruned.output w :=
  ordered.needs_of_marked (marked_place above inside)

end Diffusion.Program
