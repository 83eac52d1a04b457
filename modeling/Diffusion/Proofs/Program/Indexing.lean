import Diffusion.Proofs.Program.Placement

/-!
Lowering looks into its tables only where they have entries.

`Access.strict` fails where an index has no entry, on reading and on writing, and where an operand
that is to be renumbered has no number. Main statement: `lowerStrictly_eq`, by which that makes no
difference to a checked program.
-/

namespace Diffusion

/-- Fails at what has no entry. -/
def Access.strict : Access (Except Halt) where
  put table i x := if i < table.size then .ok (table.setIfInBounds i x) else .error .indexOutOfRange
  marked marks value := Halt.entry marks value
  number numbers value := do
    match ← Halt.entry numbers value with
    | some number => return number
    | none => .error .indexOutOfRange
  run x := x

namespace Access

theorem strict_put {α : Type} {table : Array α} {i : Nat} (inside : i < table.size) (x : α) :
    strict.put table i x = .ok (table.setIfInBounds i x) := if_pos inside

theorem strict_marked {marks : Array Bool} {v : Nat} (inside : v < marks.size) :
    strict.marked marks v = .ok (marks.getD v false) := by
  refine Halt.entry_eq_ok_iff.mpr ?_
  simp [Array.getD, inside]

theorem strict_number {numbers : Array (Option Nat)} {v number : Nat}
    (numbered : numbers[v]? = some (some number)) : strict.number numbers v = .ok number := by
  simp only [strict, Halt.entry_eq_ok_iff.mpr numbered]
  rfl

end Access

namespace Program

variable {A : Arithmetic}

/-- Lowering that fails at what has no entry. -/
def lowerStrictly (p : Program A) : Except Halt (Program A) := p.lowerBy .strict

/-! ### Redirections -/

theorem forwardStepBy_strict {i : Instruction A} {value : Nat} {table : Array Nat}
    (inside : value < table.size) :
    forwardStepBy .strict value i table = forwardStep value i table := by
  unfold forwardStep forwardStepBy
  simp only [Access.strict_put inside]
  rfl

theorem forwardBy_strict {is : List (Instruction A)} {value : Nat} {table : Array Nat}
    (room : value + is.length ≤ table.size) :
    forwardBy .strict value is table = forwardFrom value is table := by
  induction is generalizing value table with
  | nil => rfl
  | cons i rest ih =>
      rw [List.length_cons] at room
      have inside : value < table.size := by omega
      rw [forwardBy, forwardStepBy_strict inside, forwardFrom_cons]
      rcases stepped : forwardStep value i table with _ | next
      · rfl
      · have size := (forwardStep_entries stepped inside).1
        exact ih (by omega)

/-! ### Marks -/

theorem foldlM_put {marks : Array Bool} {operands : List Nat}
    (inside : ∀ v ∈ operands, v < marks.size) :
    operands.foldlM (fun marks v => Access.strict.put marks v true) marks =
      .ok (operands.foldl mark marks) := by
  induction operands generalizing marks with
  | nil => rfl
  | cons v rest ih =>
      obtain ⟨here, others⟩ := List.forall_mem_cons.mp inside
      rw [List.foldlM_cons, Access.strict_put here, List.foldl_cons]
      rw [← size_mark marks v] at others
      exact ih others

theorem markStepBy_strict {value : Nat} {i : Instruction A} {marks : Array Bool}
    (room : value < marks.size) (inside : ∀ v ∈ i.op.operands, v < marks.size) :
    markStepBy .strict value i marks = .ok (marksBefore value i marks) := by
  rw [markStepBy, Access.strict_marked room, Halt.bind_ok, foldlM_put inside, marksBefore_eq]
  by_cases marked : marks.getD value false = true
  · rw [if_pos marked, if_pos marked]
  · rw [if_neg marked, if_neg marked]
    rfl

theorem markBy_strict {is : List (Instruction A)} {value : Nat} {marks : Array Bool}
    (room : value < marks.size) (inside : ∀ i ∈ is, ∀ v ∈ i.op.operands, v < marks.size) :
    markBy .strict value is marks = .ok (markFrom value is marks) := by
  induction is generalizing value marks with
  | nil => rfl
  | cons i before ih =>
      obtain ⟨here, others⟩ := List.forall_mem_cons.mp inside
      rw [markBy, markStepBy_strict room here, Halt.bind_ok]
      rw [← size_marksBefore value i marks] at room others
      exact ih (Nat.lt_of_le_of_lt (Nat.sub_le value 1) room) others

variable {p : Program A}

theorem size_markFrom {is : List (Instruction A)} {value : Nat} {marks : Array Bool} :
    (markFrom value is marks).size = marks.size := by
  induction is generalizing value marks with
  | nil => rfl
  | cons i before ih => exact ih.trans (size_marksBefore value i marks)

theorem size_marks (p : Program A) : p.marks.size = p.numValues := by
  change (markFrom _ _ (mark (Array.replicate p.numValues false) p.output)).size = _
  rw [size_markFrom, size_mark, Array.size_replicate]

theorem Ordered.neededBy_strict (ordered : p.Ordered) :
    p.neededBy .strict p.instructions.toList p.output = .ok p.marks := by
  have positive := Nat.zero_lt_of_lt ordered.output
  rw [neededBy, Access.strict_put (by rw [Array.size_replicate]; exact ordered.output),
    Halt.bind_ok]
  apply markBy_strict
  · rw [Array.size_setIfInBounds, Array.size_replicate]
    omega
  · intro i member v operand
    obtain ⟨k, found⟩ := List.mem_iff_getElem?.mp (List.mem_reverse.mp member)
    rw [Array.getElem?_toList] at found
    rw [Array.size_setIfInBounds, Array.size_replicate]
    exact (ordered.operands k i found v operand).trans (lt_numValues found)

/-! ### Numbers -/

theorem Kept.keepBy_strict {kept : Kept A} {numInputs value : Nat} {i : Instruction A}
    (room : value < kept.numbers.size)
    (numbered : ∀ v ∈ i.op.operands, ∃ number,
      (kept.keep numInputs value i).numbers[v]? = some (some number)) :
    kept.keepBy .strict numInputs value i = .ok (kept.keep numInputs value i) := by
  have named : i.op.mapOperandsM (Access.strict.number (kept.keep numInputs value i).numbers) =
      .ok (i.op.mapOperands (kept.keep numInputs value i).rename) := by
    refine Op.mapOperandsM_eq_ok fun v member => ?_
    obtain ⟨number, found⟩ := numbered v member
    rw [Access.strict_number found, Kept.rename_of_number found]
  rw [keepBy, Access.strict_put room, Halt.bind_ok]
  change i.op.mapOperandsM (Access.strict.number (kept.keep numInputs value i).numbers) >>= _ = _
  rw [named]
  rfl

theorem Ordered.keepBy_strict (ordered : p.Ordered) {k : Nat}
    {is : List (Instruction A)} (suffix : ∀ j, is[j]? = p.instructions[k + j]?) {kept : Kept A}
    (numbered : kept.Numbered p (p.inputs.size + k))
    (room : p.inputs.size + k + is.length ≤ kept.numbers.size) :
    keepBy .strict p.inputs.size p.marks (p.inputs.size + k) is kept =
      .ok (keepFrom p.inputs.size p.marks (p.inputs.size + k) is kept) := by
  induction is generalizing k kept with
  | nil => rfl
  | cons i rest ih =>
      have found : p.instructions[k]? = some i := (suffix 0).symm
      have inside := lt_numValues found
      have above := Nat.le_add_right p.inputs.size k
      rw [List.length_cons] at room
      have later := @ih (k + 1) fun j => by
        rw [← List.getElem?_cons_succ, suffix, Nat.add_right_comm, Nat.add_assoc]
      rw [← Nat.add_assoc] at later
      rw [keepBy, keepStepBy, Access.strict_marked (p.size_marks.symm ▸ inside), Halt.bind_ok]
      by_cases marked : Marked p.marks (p.inputs.size + k)
      · have stays := (stays_iff_marked above inside).mpr marked
        have next := numbered.keep stays (by omega) i
        have keeps : kept.keepBy .strict p.inputs.size (p.inputs.size + k) i = .ok _ :=
          Kept.keepBy_strict (by omega) fun v member => ⟨p.number v, next.names v
            (Nat.lt_succ_of_lt (ordered.operands k i found v member))
            (.inr (.inl (ordered.marked_operand found marked v member)))⟩
        rw [keepFrom_marked marked, if_pos (show p.marks.getD _ false = true from marked), keeps,
          Halt.bind_ok]
        exact later next (by rw [Kept.size_keep]; omega)
      · have skips : ¬ p.Stays (p.inputs.size + k) :=
          marked ∘ (stays_iff_marked above inside).mp
        rw [keepFrom_spare marked, if_neg (show ¬ p.marks.getD _ false = true from marked)]
        exact later (numbered.skip skips) (by omega)

/-! ### The whole of it -/

theorem Ordered.pruneBy_strict (ordered : p.Ordered) :
    p.pruneBy .strict p.instructions.toList p.output = .ok p.pruned := by
  have whole (j : Nat) : p.instructions.toList[j]? = p.instructions[0 + j]? := by simp
  have strict : keepBy .strict p.inputs.size p.marks p.inputs.size p.instructions.toList
      p.keptInputs = .ok p.kept :=
    ordered.keepBy_strict whole p.numbered_keptInputs (Nat.le_of_eq p.size_keptInputs.symm)
  have stays : p.Stays p.output := .inr (.inl ordered.marked_output)
  have number := p.numbered_kept.names p.output ordered.output stays
  have output : Access.strict.number p.kept.numbers p.output = .ok (p.kept.rename p.output) := by
    rw [Access.strict_number number, rename_kept stays ordered.output]
  change (p.neededBy .strict p.instructions.toList p.output >>= fun marks =>
    keepBy .strict p.inputs.size marks p.inputs.size p.instructions.toList p.keptInputs >>=
      fun kept => Access.strict.number kept.numbers p.output >>= _) = _
  rw [ordered.neededBy_strict, Halt.bind_ok, strict, Halt.bind_ok, output]
  rfl

theorem pruneBy_redirectedBy {m : Type → Type} [Monad m] (access : Access m) (p : Program A)
    (table : Array Nat) : (p.redirectedBy table).pruneBy access = p.pruneBy access := by
  funext instructions output
  rw [pruneBy, pruneBy, neededBy_redirectedBy, keptInputs_redirectedBy]
  rfl

/-- A checked program is lowered without looking past the end of any table, and every operand that
is renumbered has a number. -/
theorem lowerStrictly_eq (wellTyped : p.WellTyped) : p.lowerStrictly = p.lower := by
  obtain ⟨table, forwarded, size, redirects⟩ :=
    p.forwarding_spec (fun _ _ => True) wellTyped (fun _ => trivial)
      fun _ _ _ _ _ _ _ _ _ => trivial
  have strict : p.forwardingBy .strict = .ok table := by
    rw [forwardingBy, forwardBy_strict (by simp [numValues])]
    exact forwarded
  have pruned := (wellTyped.ordered_redirectedBy redirects size).pruneBy_strict
  rw [pruneBy_redirectedBy, redirectedBy, Array.toList_map] at pruned
  rw [lowerStrictly, lowerBy, strict, Halt.bind_ok, p.mapM_redirect wellTyped size, Halt.bind_ok,
    p.entry_output wellTyped size, Halt.bind_ok, p.lower_eq_ok wellTyped forwarded size,
    loweredBy_eq, redirectedBy, pruned]

end Program

end Diffusion
