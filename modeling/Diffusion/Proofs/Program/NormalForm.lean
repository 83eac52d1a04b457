import Diffusion.Proofs.Program.Indexing

/-!
Lowered programs are in normal form.

Lowering a checked program never looks past the end of a table and never meets an operand without a
number, and what it leaves is checked, reads no copy, has nothing that its result does not need, and
is left alone by a second lowering. Main statement: `lower_normalForm`.
-/

namespace Diffusion.Program

variable {A : Arithmetic} {p q : Program A} {table : Array Nat} {v k : Nat} {i : Instruction A}

/-! ### Redirections -/

/-- The redirections of a checked program: each value to the one that it is a copy of, which has the
same shape. -/
structure Forwards (p : Program A) (table : Array Nat) : Prop where
  forwarded : p.forwarding = .ok table
  size : table.size = p.numValues
  resolves : p.Resolves table
  redirects : Redirects (fun t v => p.valueShape? t = p.valueShape? v) table

theorem WellTyped.operand_of_copies (wellTyped : p.WellTyped) (found : p.instructions[k]? = some i)
    {input : Nat} (copies : i.op.Copies input) :
    input < p.inputs.size + k ∧ p.valueShape? input = some i.shape := by
  obtain ⟨factor, op, -⟩ := copies
  refine ⟨wellTyped.ordered k i found input (by simp [op, Op.operands]), ?_⟩
  have declared := wellTyped.declared k i found
  rw [op] at declared
  cases declared
  assumption

theorem WellTyped.exists_forwards (wellTyped : p.WellTyped) : ∃ table, p.Forwards table := by
  obtain ⟨table, forwarded, size, redirects⟩ :=
    p.forwarding_spec (fun t v => p.valueShape? t = p.valueShape? v) wellTyped (fun _ => rfl) <| by
      intro k i input factor found op one t alike
      rw [alike, (wellTyped.operand_of_copies found ⟨factor, op, one⟩).2,
        p.valueShape?_instruction found]
  exact ⟨table, forwarded, size, resolves_of_forwarding wellTyped forwarded size, redirects⟩

namespace Forwards

theorem target_le (forwards : p.Forwards table) (inside : v < p.numValues) :
    table.getD v v ≤ v := (forwards.redirects.getD forwards.size inside).1

theorem shape_target (forwards : p.Forwards table) (inside : v < p.numValues) :
    p.valueShape? (table.getD v v) = p.valueShape? v :=
  (forwards.redirects.getD forwards.size inside).2

/-- What a value is a copy of is itself no copy. -/
theorem target_target (forwards : p.Forwards table) (wellTyped : p.WellTyped)
    (inside : v < p.numValues) :
    table.getD (table.getD v v) (table.getD v v) = table.getD v v := by
  induction v using Nat.strongRecOn with
  | ind v ih =>
      rcases input_or_instruction inside with input | ⟨k, i, rfl, found⟩
      · rw [getD_forwarding_input wellTyped forwards.forwarded input,
          getD_forwarding_input wellTyped forwards.forwarded input]
      · by_cases copy : ∃ input, i.op.Copies input
        · obtain ⟨input, copies⟩ := copy
          have before := (wellTyped.operand_of_copies found copies).1
          rw [forwards.resolves.copy k i input found copies]
          exact ih input before (before.trans inside)
        · rw [forwards.resolves.own k i found (not_exists.mp copy),
            forwards.resolves.own k i found (not_exists.mp copy)]

theorem getElem?_redirectedBy {j : Instruction A} :
    (p.redirectedBy table).instructions[k]? = some j ↔
      ∃ i, p.instructions[k]? = some i ∧ redirected table i = j := by
  rw [redirectedBy, Array.getElem?_map, Option.map_eq_some_iff]

theorem redirects_back (forwards : p.Forwards table) : Redirects (fun _ _ => True) table :=
  fun v t found => ⟨(forwards.redirects v t found).1, trivial⟩

theorem ordered (forwards : p.Forwards table) (wellTyped : p.WellTyped) :
    (p.redirectedBy table).Ordered :=
  wellTyped.ordered_redirectedBy forwards.redirects_back forwards.size

theorem lower_eq (forwards : p.Forwards table) (wellTyped : p.WellTyped) :
    p.lower = .ok (p.redirectedBy table).pruned := by
  rw [p.lower_eq_ok wellTyped forwards.forwarded forwards.size, loweredBy_eq]

/-- What is needed of the redirected program is no copy. -/
theorem target_of_marked (forwards : p.Forwards table) (wellTyped : p.WellTyped)
    (marked : Marked (p.redirectedBy table).marks v) : table.getD v v = v := by
  refine of_marked (P := fun v => table.getD v v = v)
    (forwards.target_target wellTyped wellTyped.output) ?_ marked
  intro k j found _ u operand
  obtain ⟨i, there, rfl⟩ := getElem?_redirectedBy.mp found
  rw [redirected, Op.operands_mapOperands] at operand
  obtain ⟨w, member, rfl⟩ := List.mem_map.mp operand
  exact forwards.target_target wellTyped
    ((wellTyped.ordered k i there w member).trans (lt_numValues there))

end Forwards

/-- No instruction is a multiplication by one. -/
def CopyFree (p : Program A) : Prop :=
  ∀ (k : Nat) (i : Instruction A) (input : Nat), p.instructions[k]? = some i → ¬ i.op.Copies input

/-! ### Condensed programs -/

/-- The second program consists of instructions of the first one, in order and renamed. `place`
leads from its values back to those of the first, and `rename` from a value, or a copy of it, to its
new number. -/
structure Condenses (p q : Program A) (place rename : Nat → Nat) : Prop where
  inputs : q.inputs = p.inputs
  fixed : ∀ v < p.inputs.size, place v = v
  increasing : StrictMono place
  inside : ∀ w, place w < p.numValues ↔ w < q.numValues
  instructions : ∀ m i, q.instructions[m]? = some i → ∃ k j,
    place (q.inputs.size + m) = p.inputs.size + k ∧ p.instructions[k]? = some j ∧
      i = j.renamed rename
  output : q.output = rename p.output
  back : ∀ w < q.numValues, rename (place w) = w
  copies : ∀ k i input, p.instructions[k]? = some i → i.op.Copies input →
    rename (p.inputs.size + k) = rename input

theorem valueShape?_redirectedBy (p : Program A) (table : Array Nat) (v : Nat) :
    (p.redirectedBy table).valueShape? v = p.valueShape? v := by
  unfold valueShape?
  rw [redirectedBy, Array.getElem?_map, Option.map_map]
  rfl

theorem Ordered.valueShape?_pruned (ordered : p.Ordered) (inside : v < p.pruned.numValues) :
    p.pruned.valueShape? v = p.valueShape? (p.place v) := by
  rcases input_or_instruction inside with input | ⟨m, i, rfl, found⟩
  · have input : v < p.inputs.size := input
    rw [place_input input, p.valueShape?_input input]
    exact p.pruned.valueShape?_input input
  · obtain ⟨k, name, there⟩ := ordered.exists_placed found
    rw [valueShape?_instruction _ found]
    change _ = p.valueShape? (p.place (p.inputs.size + m))
    rw [name, p.valueShape?_instruction there]
    rfl

namespace Forwards

/-- The new number of a value: that of what it is a copy of. -/
def rename (p : Program A) (table : Array Nat) (v : Nat) : Nat :=
  (p.redirectedBy table).number (table.getD v v)

variable (forwards : p.Forwards table) (wellTyped : p.WellTyped)

include forwards wellTyped

/-- Each instruction that is left is one of the program, and all values that stay are their own
targets. -/
theorem exists_left {m : Nat} (found : (p.redirectedBy table).pruned.instructions[m]? = some i) :
    ∃ k j, (p.redirectedBy table).place (p.inputs.size + m) = p.inputs.size + k ∧
      p.instructions[k]? = some j ∧ i = j.renamed (rename p table) ∧
        i.renamed (p.redirectedBy table).place = j.renamed fun v => table.getD v v := by
  obtain ⟨k, name, there⟩ := (forwards.ordered wellTyped).exists_placed found
  obtain ⟨j, here, same⟩ := getElem?_redirectedBy.mp there
  refine ⟨k, j, name, here, ?_, same.symm⟩
  calc i
      = (i.renamed (p.redirectedBy table).place).renamed (p.redirectedBy table).number := by
        rw [Instruction.renamed_renamed]
        exact (Instruction.renamed_eq_self fun w _ => number_place _ w).symm
    _ = (j.renamed fun v => table.getD v v).renamed (p.redirectedBy table).number := by
        rw [← same]
        rfl
    _ = j.renamed (rename p table) := Instruction.renamed_renamed _ _ j

theorem target_place {w : Nat} (inside : w < (p.redirectedBy table).pruned.numValues) :
    table.getD ((p.redirectedBy table).place w) ((p.redirectedBy table).place w) =
      (p.redirectedBy table).place w := by
  by_cases input : w < p.inputs.size
  · rw [place_input (p := p.redirectedBy table) input,
      getD_forwarding_input wellTyped forwards.forwarded input]
  · exact forwards.target_of_marked wellTyped (marked_place (Nat.le_of_not_lt input) inside)

theorem condenses : p.Condenses (p.redirectedBy table).pruned (p.redirectedBy table).place
    (rename p table) where
  inputs := rfl
  fixed _ input := place_input (p := p.redirectedBy table) input
  increasing := strictMono_place _
  inside w := by
    rw [← numValues_redirectedBy p table]
    exact place_lt_numValues_iff
  instructions m i found := by
    obtain ⟨k, j, name, here, same, -⟩ := forwards.exists_left wellTyped found
    exact ⟨k, j, name, here, same⟩
  output := by
    have output := (forwards.ordered wellTyped).renumbered_pruned.output
    change _ = (p.redirectedBy table).number (p.redirectedBy table).output
    rw [output, number_place]
  back w inside := by
    rw [rename, forwards.target_place wellTyped inside, number_place]
  copies k i input found copies := by
    rw [rename, rename, forwards.resolves.copy k i input found copies]

/-- A value keeps its shape under its new number, if what it is a copy of stays. -/
theorem valueShape?_rename (inside : v < p.numValues)
    (stays : (p.redirectedBy table).Stays (table.getD v v)) :
    (p.redirectedBy table).pruned.valueShape? (rename p table v) = p.valueShape? v := by
  have back : (p.redirectedBy table).place (rename p table v) = table.getD v v :=
    place_number stays
  have left : rename p table v < (p.redirectedBy table).pruned.numValues := by
    rw [← place_lt_numValues_iff, back, numValues_redirectedBy]
    exact (forwards.target_le inside).trans_lt inside
  rw [(forwards.ordered wellTyped).valueShape?_pruned left, back, valueShape?_redirectedBy,
    forwards.shape_target inside]

theorem wellTyped_pruned : (p.redirectedBy table).pruned.WellTyped where
  ordered := (forwards.ordered wellTyped).pruned.operands
  output := (forwards.ordered wellTyped).pruned.output
  declared m i found := by
    obtain ⟨k, j, name, here, rfl, -⟩ := forwards.exists_left wellTyped found
    have left : p.inputs.size + m < (p.redirectedBy table).pruned.numValues := lt_numValues found
    have marked := marked_place (p := p.redirectedBy table) (Nat.le_add_right p.inputs.size m) left
    rw [name] at marked
    refine (wellTyped.declared k j here).mapOperands fun v member s shape => ?_
    -- The operands of what stays are marked where they are redirected to.
    have target : Marked (p.redirectedBy table).marks (table.getD v v) :=
      (forwards.ordered wellTyped).marked_operand (getElem?_redirectedBy.mpr ⟨j, here, rfl⟩) marked
        _ (by rw [redirected, Op.operands_mapOperands]; exact List.mem_map_of_mem member)
    have inside := (wellTyped.ordered k j here v member).trans (lt_numValues here)
    rw [forwards.valueShape?_rename wellTyped inside (.inr (.inl target)), shape]

theorem copyFree_pruned : (p.redirectedBy table).pruned.CopyFree := by
  intro m i input found copies
  obtain ⟨k, j, name, here, rfl, -⟩ := forwards.exists_left wellTyped found
  obtain ⟨source, copies⟩ := copies.of_mapOperands
  -- A copy is redirected to an earlier value, and what stays to itself.
  have self : table.getD ((p.redirectedBy table).place (p.inputs.size + m))
      ((p.redirectedBy table).place (p.inputs.size + m)) =
        (p.redirectedBy table).place (p.inputs.size + m) :=
    forwards.target_place wellTyped (lt_numValues found)
  rw [name, forwards.resolves.copy k j source here copies] at self
  have before := (wellTyped.operand_of_copies here copies).1
  have le := forwards.target_le (before.trans (lt_numValues here))
  omega

end Forwards

/-! ### The normal form -/

/-- Lowering scales by no factors but those of the program. -/
theorem exact_of_lower (wellTyped : p.WellTyped) (lowered : p.lower = .ok q)
    (exact : ∀ i ∈ p.instructions, i.op.Exact) : ∀ i ∈ q.instructions, i.op.Exact := by
  obtain ⟨table, forwards⟩ := wellTyped.exists_forwards
  cases lowered.symm.trans (forwards.lower_eq wellTyped)
  intro i member
  obtain ⟨m, found⟩ := Array.mem_iff_getElem?.mp member
  obtain ⟨k, j, -, there, rfl, -⟩ := forwards.exists_left wellTyped found
  exact (exact j (Array.mem_of_getElem? there)).mapOperands _

/-- A program without copies is left alone by the redirections. -/
theorem Forwards.redirectedBy_eq_self (forwards : p.Forwards table) (wellTyped : p.WellTyped)
    (copyFree : p.CopyFree) : p.redirectedBy table = p := by
  have own : ∀ v < p.numValues, table.getD v v = v := by
    intro v inside
    rcases input_or_instruction inside with input | ⟨k, i, rfl, found⟩
    · exact getD_forwarding_input wellTyped forwards.forwarded input
    · exact forwards.resolves.own k i found fun input => copyFree k i input found
  have instructions : p.instructions.map (redirected table) = p.instructions := by
    refine Array.ext_getElem? fun k => ?_
    rw [Array.getElem?_map]
    rcases found : p.instructions[k]? with _ | i
    · rfl
    · refine congrArg some (Instruction.renamed_eq_self fun v member => own v ?_)
      exact (wellTyped.ordered k i found v member).trans (lt_numValues found)
  rw [redirectedBy, instructions, own p.output wellTyped.output]

/-- A checked program is lowered, without a look past the end of any table, to a checked program of
the same inputs and output shape, which has no copies, only instructions that its result needs,
and these are instructions of the program in order and renamed. Lowering it again changes
nothing. -/
theorem lower_normalForm (valid : p.Valid) :
    ∃ q, p.lowerStrictly = .ok q ∧ p.lower = .ok q ∧ q.Valid ∧ q.inputs = p.inputs ∧
      q.outputShape? = p.outputShape? ∧
      q.CopyFree ∧ (∀ m < q.instructions.size, q.Needs q.output (q.inputs.size + m)) ∧
      (∃ place rename, p.Condenses q place rename) ∧ q.lower = .ok q := by
  have wellTyped := p.valid_iff_wellTyped.mp valid
  obtain ⟨table, forwards⟩ := wellTyped.exists_forwards
  have ordered := forwards.ordered wellTyped
  have lowered := forwards.lower_eq wellTyped
  have wellTyped' := forwards.wellTyped_pruned wellTyped
  have copyFree := forwards.copyFree_pruned wellTyped
  have again : (p.redirectedBy table).pruned.lower = .ok (p.redirectedBy table).pruned := by
    obtain ⟨table', forwards'⟩ := wellTyped'.exists_forwards
    rw [forwards'.lower_eq wellTyped', forwards'.redirectedBy_eq_self wellTyped' copyFree,
      ordered.pruned_pruned]
  have condenses := forwards.condenses wellTyped
  have stays : (p.redirectedBy table).Stays (table.getD p.output p.output) :=
    .inr (.inl ordered.marked_output)
  refine ⟨(p.redirectedBy table).pruned, (lowerStrictly_eq wellTyped).trans lowered, lowered,
    (valid_iff_wellTyped _).mpr wellTyped', rfl, ?_, copyFree, ?_, ⟨_, _, condenses⟩, again⟩
  · rw [outputShape?, condenses.output,
      forwards.valueShape?_rename wellTyped wellTyped.output stays, outputShape?]
  · intro m inside
    exact ordered.needs_pruned (Nat.le_add_right _ m) (Nat.add_lt_add_left inside _)

theorem lower_normalForm_roundabout :
    roundabout.Valid ∧ ∃ q, roundabout.lower = .ok q ∧ q.instructions.size = 1 ∧ q.Valid ∧
      q.lower = .ok q := by
  have valid : roundabout.Valid := rfl
  have shrinks : roundabout.lower.toOption.map (·.instructions.size) = some 1 := by
    decide +kernel
  obtain ⟨q, -, lowered, accepted, -, -, -, -, -, again⟩ := lower_normalForm valid
  rw [lowered] at shrinks
  exact ⟨valid, q, lowered, Option.some.inj shrinks, accepted, again⟩

end Diffusion.Program
