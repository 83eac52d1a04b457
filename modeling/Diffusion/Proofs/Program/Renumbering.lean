import Diffusion.Proofs.Program.Pruning

/-!
Programs that differ by numbers and by spare instructions are lowered to the same program.

A program is another one renumbered if it has its instructions under new numbers, in order, and in
between some whose values the first one has no name for, so that nothing reads them. Each pass of
lowering is followed along such a renumbering: redirections commute with it, marks are carried by it
and reach no spare value, and what is kept gets the same numbers. Main statement:
`Renumbered.lower_eq`.
-/

namespace Diffusion

namespace Op

variable {A : Arithmetic} {op : Op A} {f : Nat → Nat}

theorem Copies.mapOperands {input : Nat} (copies : op.Copies input) :
    (op.mapOperands f).Copies (f input) := by
  obtain ⟨factor, rfl, one⟩ := copies
  exact ⟨factor, rfl, one⟩

theorem Copies.of_mapOperands {target : Nat} (copies : (op.mapOperands f).Copies target) :
    ∃ input, op.Copies input := by
  obtain ⟨factor, same, one⟩ := copies
  cases op with
  | scale input =>
      cases same
      exact ⟨input, factor, rfl, one⟩
  | add | sub | concat | slice | noise | unet => cases same

end Op

namespace Program

variable {A : Arithmetic} {Spare : Instruction A → Prop} {f : Nat → Nat} {v u : Nat}
  {is js : List (Instruction A)}

/-- The second row of instructions, the first of which has the value `u`, is the first row, the
first of which has the value `v`, renamed by `f`, with spare instructions in between. A spare value
is the new name of nothing. -/
inductive Renumbers (Spare : Instruction A → Prop) (f : Nat → Nat) :
    Nat → Nat → List (Instruction A) → List (Instruction A) → Prop where
  | nil {v u : Nat} : Renumbers Spare f v u [] []
  | keep {v u : Nat} {i : Instruction A} {is js : List (Instruction A)} (here : f v = u)
      (rest : Renumbers Spare f (v + 1) (u + 1) is js) :
      Renumbers Spare f v u (i :: is) (i.renamed f :: js)
  | spare {v u : Nat} {i : Instruction A} {is js : List (Instruction A)} (unnamed : ∀ w, f w ≠ u)
      (spare : Spare i) (rest : Renumbers Spare f v (u + 1) is js) :
      Renumbers Spare f v u is (i :: js)

namespace Renumbers

theorem exists_name (renumbers : Renumbers Spare f v u is js) {k : Nat} {i : Instruction A}
    (found : is[k]? = some i) : ∃ m, f (v + k) = u + m ∧ js[m]? = some (i.renamed f) := by
  induction renumbers generalizing k with
  | nil => cases found
  | @keep v u first is js here _ ih =>
      cases k with
      | zero =>
          cases found
          exact ⟨0, here, rfl⟩
      | succ k =>
          obtain ⟨m, name, there⟩ := ih found
          exact ⟨m + 1, by rw [show v + (k + 1) = v + 1 + k by omega, name]; omega, there⟩
  | spare _ _ _ ih =>
      obtain ⟨m, name, there⟩ := ih found
      exact ⟨m + 1, by rw [name]; omega, there⟩

theorem le_name (renumbers : Renumbers Spare f v u is js) {k : Nat} (inside : k < is.length) :
    u ≤ f (v + k) := by
  obtain ⟨m, name, -⟩ := renumbers.exists_name (List.getElem?_eq_getElem inside)
  omega

theorem name_lt (renumbers : Renumbers Spare f v u is js) {k l : Nat} (less : k < l)
    (inside : l < is.length) : f (v + k) < f (v + l) := by
  induction renumbers generalizing k l with
  | nil => cases inside
  | @keep v u first is js here rest ih =>
      obtain ⟨l, rfl⟩ := Nat.exists_eq_add_one_of_ne_zero (Nat.ne_zero_of_lt less)
      have shift : ∀ k, v + (k + 1) = v + 1 + k := by omega
      rw [shift]
      cases k with
      | zero =>
          rw [Nat.add_zero, here]
          exact rest.le_name (Nat.lt_of_succ_lt_succ inside)
      | succ k =>
          rw [shift]
          exact ih (Nat.lt_of_succ_lt_succ less) (Nat.lt_of_succ_lt_succ inside)
  | spare _ _ _ ih => exact ih less inside

theorem map (renumbers : Renumbers Spare f v u is js) {g h : Instruction A → Instruction A}
    (commutes : ∀ i ∈ is, h (i.renamed f) = (g i).renamed f) :
    Renumbers (fun _ => True) f v u (is.map g) (js.map h) := by
  induction renumbers with
  | nil => exact .nil
  | keep here _ ih =>
      obtain ⟨first, others⟩ := List.forall_mem_cons.mp commutes
      rw [List.map_cons, List.map_cons, first]
      exact .keep here (ih others)
  | spare unnamed _ _ ih => exact .spare unnamed trivial (ih commutes)

end Renumbers

/-- The second program is the first one renumbered. Inputs keep their numbers. -/
structure Renumbered (Spare : Instruction A → Prop) (f : Nat → Nat) (p q : Program A) : Prop where
  inputs : q.inputs = p.inputs
  fixed : ∀ v < p.inputs.size, f v = v
  instructions : Renumbers Spare f p.inputs.size p.inputs.size p.instructions.toList
    q.instructions.toList
  output : q.output = f p.output

namespace Renumbered

variable {p q : Program A} (renumbered : Renumbered Spare f p q)

include renumbered

theorem exists_instruction {k : Nat} {i : Instruction A} (found : p.instructions[k]? = some i) :
    ∃ m, f (p.inputs.size + k) = q.inputs.size + m ∧ q.instructions[m]? = some (i.renamed f) := by
  obtain ⟨m, name, there⟩ := renumbered.instructions.exists_name
    (show p.instructions.toList[k]? = some i by simpa using found)
  exact ⟨m, by rw [name, renumbered.inputs], by simpa using there⟩

theorem name_lt_name {w : Nat} (less : v < w) (inside : w < p.numValues) : f v < f w := by
  rw [numValues] at inside
  by_cases input : w < p.inputs.size
  · rwa [renumbered.fixed v (Nat.lt_trans less input), renumbered.fixed w input]
  · obtain ⟨l, rfl⟩ := Nat.exists_eq_add_of_le (Nat.le_of_not_lt input)
    have later : l < p.instructions.toList.length := by simpa using inside
    by_cases before : v < p.inputs.size
    · rw [renumbered.fixed v before]
      exact Nat.lt_of_lt_of_le before (renumbered.instructions.le_name later)
    · obtain ⟨k, rfl⟩ := Nat.exists_eq_add_of_le (Nat.le_of_not_lt before)
      exact renumbered.instructions.name_lt (by omega) later

theorem name_injective {w : Nat} (left : v < p.numValues) (right : w < p.numValues)
    (same : f v = f w) : v = w := by
  rcases Nat.lt_trichotomy v w with less | equal | less
  · exact absurd same (Nat.ne_of_lt (renumbered.name_lt_name less right))
  · exact equal
  · exact absurd same (Nat.ne_of_gt (renumbered.name_lt_name less left))

end Renumbered

/-! ### Redirections -/

theorem input_or_instruction {p : Program A} (inside : v < p.numValues) :
    v < p.inputs.size ∨ ∃ k i, v = p.inputs.size + k ∧ p.instructions[k]? = some i := by
  rw [numValues] at inside
  by_cases input : v < p.inputs.size
  · exact .inl input
  · exact .inr ⟨v - p.inputs.size, _, by omega, Array.getElem?_eq_getElem (by omega)⟩

theorem getD_forwarding_input {p : Program A} {table : Array Nat} (wellTyped : p.WellTyped)
    (forwarded : p.forwarding = .ok table) (input : v < p.inputs.size) : table.getD v v = v := by
  obtain ⟨before, -⟩ := forwardFrom_entries forwarded (by simp [numValues])
    fun j i found => wellTyped.ordered j i (by simpa using found)
  rw [Array.getD_eq_getD_getElem?, before v input, Array.getElem?_range,
    if_pos (by rw [numValues]; omega)]
  rfl

namespace Renumbered

variable {p q : Program A} {table table' : Array Nat}

/-- What a value is a copy of has the new name of what the value was a copy of. -/
theorem getD_name (renumbered : Renumbered Spare f p q) (wellTyped : p.WellTyped)
    (wellTyped' : q.WellTyped) (forwarded : p.forwarding = .ok table)
    (size : table.size = p.numValues) (forwarded' : q.forwarding = .ok table')
    (size' : table'.size = q.numValues) (inside : v < p.numValues) :
    table'.getD (f v) (f v) = f (table.getD v v) := by
  have resolves := resolves_of_forwarding wellTyped forwarded size
  have resolves' := resolves_of_forwarding wellTyped' forwarded' size'
  induction v using Nat.strongRecOn with
  | ind v ih =>
      rcases input_or_instruction inside with input | ⟨k, i, rfl, found⟩
      · have input' : v < q.inputs.size := renumbered.inputs ▸ input
        rw [getD_forwarding_input wellTyped forwarded input, renumbered.fixed v input,
          getD_forwarding_input wellTyped' forwarded' input']
      · -- A copy leads on to its input, which is an earlier value.
        obtain ⟨m, name, there⟩ := renumbered.exists_instruction found
        by_cases copy : ∃ input, i.op.Copies input
        · obtain ⟨input, copies⟩ := copy
          have before : input < p.inputs.size + k := by
            obtain ⟨_, op, -⟩ := copies
            exact wellTyped.ordered k i found input (by simp [op, Op.operands])
          rw [name, resolves'.copy m _ _ there copies.mapOperands,
            resolves.copy k i input found copies]
          exact ih input before (Nat.lt_trans before inside)
        · have never : ∀ target, ¬ (i.renamed f).op.Copies target :=
            fun _ copies => copy copies.of_mapOperands
          rw [name, resolves'.own m _ there never, resolves.own k i found (not_exists.mp copy),
            name]

end Renumbered

def redirectedBy (p : Program A) (table : Array Nat) : Program A where
  inputs := p.inputs
  instructions := p.instructions.map (redirected table)
  output := table.getD p.output p.output

theorem numValues_redirectedBy (p : Program A) (table : Array Nat) :
    (p.redirectedBy table).numValues = p.numValues := by
  simp [numValues, redirectedBy]

theorem keptInputs_redirectedBy (p : Program A) (table : Array Nat) :
    (p.redirectedBy table).keptInputs = p.keptInputs := by
  rw [keptInputs, numValues_redirectedBy]
  rfl

theorem neededBy_redirectedBy {m : Type → Type} [Monad m] (access : Access m) (p : Program A)
    (table : Array Nat) : (p.redirectedBy table).neededBy access = p.neededBy access := by
  funext instructions output
  rw [neededBy, neededBy, numValues_redirectedBy]

theorem Renumbered.redirectedBy {p q : Program A} {table table' : Array Nat}
    (renumbered : Renumbered Spare f p q) (wellTyped : p.WellTyped)
    (names : ∀ v < p.numValues, table'.getD (f v) (f v) = f (table.getD v v)) :
    Renumbered (fun _ => True) f (p.redirectedBy table) (q.redirectedBy table') where
  inputs := renumbered.inputs
  fixed := renumbered.fixed
  output := by
    change table'.getD q.output q.output = _
    rw [renumbered.output]
    exact names p.output wellTyped.output
  instructions := by
    change Renumbers _ f p.inputs.size p.inputs.size (p.instructions.map (redirected table)).toList
      (q.instructions.map (redirected table')).toList
    rw [Array.toList_map, Array.toList_map]
    refine renumbered.instructions.map fun i member => ?_
    obtain ⟨k, found⟩ := List.mem_iff_getElem?.mp member
    rw [Array.getElem?_toList] at found
    have inside : ∀ v ∈ i.op.operands, v < p.numValues := fun v operand =>
      Nat.lt_trans (wellTyped.ordered k i found v operand) (lt_numValues found)
    simp only [redirected, Instruction.renamed, Op.mapOperands_mapOperands]
    exact congrArg (Instruction.mk · i.shape)
      (Op.mapOperands_congr fun v operand => names v (inside v operand))

/-! ### Marks -/

/-- Walking back marks nothing that is not read. -/
theorem of_marked_markFrom {P : Nat → Prop} {is : List (Instruction A)} {value : Nat}
    {marks : Array Bool} (start : ∀ v, Marked marks v → P v)
    (closed : ∀ (k : Nat) i, is[k]? = some i → P (value - k) → ∀ v ∈ i.op.operands, P v)
    (marked : Marked (markFrom value is marks) v) : P v := by
  induction is generalizing value marks with
  | nil => exact start v marked
  | cons i before ih =>
      refine @ih (value - 1) (marksBefore value i marks) ?_ ?_ marked
      · intro w here
        rcases marked_marksBefore.mp here with already | ⟨read, operand, -⟩
        · exact start w already
        · exact closed 0 i rfl (start value read) w operand
      · intro k j found holds
        refine closed (k + 1) j (by simpa using found) ?_
        rwa [show value - (k + 1) = value - 1 - k by omega]

/-- Every instruction reads earlier values, and the result is a value of the program. -/
structure Ordered (p : Program A) : Prop where
  operands : ∀ (k : Nat) (i : Instruction A), p.instructions[k]? = some i →
    ∀ v ∈ i.op.operands, v < p.inputs.size + k
  output : p.output < p.numValues

def marks (p : Program A) : Array Bool := p.needed p.instructions.toList p.output

theorem marks_redirectedBy (p : Program A) (table : Array Nat) :
    (p.redirectedBy table).marks =
      p.needed (p.instructions.toList.map (redirected table)) (table.getD p.output p.output) := by
  rw [marks, needed, neededBy_redirectedBy, redirectedBy, Array.toList_map]
  rfl

variable {p q : Program A}

theorem Ordered.marked_output (ordered : p.Ordered) : Marked p.marks p.output :=
  (p.needed_spec (by simp) (by simpa using ordered.operands) ordered.output).1

theorem Ordered.marked_operand (ordered : p.Ordered) {k : Nat} {i : Instruction A}
    (found : p.instructions[k]? = some i) (marked : Marked p.marks (p.inputs.size + k)) :
    ∀ v ∈ i.op.operands, Marked p.marks v :=
  (p.needed_spec (by simp) (by simpa using ordered.operands) ordered.output).2 k i
    (by simpa using found) marked

/-- Whatever holds of the result and of all that is read for it holds of the marked values. -/
theorem of_marked {P : Nat → Prop} (start : P p.output)
    (closed : ∀ (k : Nat) i, p.instructions[k]? = some i → P (p.inputs.size + k) →
      ∀ v ∈ i.op.operands, P v) (marked : Marked p.marks v) : P v := by
  refine of_marked_markFrom ?_ ?_ marked
  · intro w here
    rcases marked_mark.mp here with never | ⟨rfl, -⟩
    · rw [Marked, Array.getD_eq_getD_getElem?, Array.getElem?_replicate] at never
      split at never <;> cases never
    · exact start
  · intro k i found holds
    have bound : k < p.instructions.toList.length := by
      simpa using (List.getElem?_eq_some_iff.mp found).1
    rw [List.getElem?_reverse bound, Array.getElem?_toList] at found
    rw [Array.length_toList] at bound found
    refine closed (p.instructions.size - 1 - k) i found ?_
    rwa [show p.inputs.size + (p.instructions.size - 1 - k) = p.numValues - 1 - k by
      rw [numValues]; omega]

namespace Renumbered

variable (renumbered : Renumbered Spare f p q)

include renumbered

theorem exists_of_marked (ordered : p.Ordered) (marked : Marked q.marks u) :
    ∃ v < p.numValues, f v = u ∧ Marked p.marks v := by
  refine of_marked (P := fun u => ∃ v < p.numValues, f v = u ∧ Marked p.marks v) ?_ ?_ marked
  · exact ⟨p.output, ordered.output, renumbered.output.symm, ordered.marked_output⟩
  · rintro m j there ⟨v, inside, name, needed⟩ _ operand
    rcases input_or_instruction inside with input | ⟨k, i, rfl, found⟩
    · rw [renumbered.fixed v input, renumbered.inputs] at name
      omega
    · obtain ⟨m', name', there'⟩ := renumbered.exists_instruction found
      obtain rfl : m' = m := by omega
      cases there.symm.trans there'
      rw [Instruction.renamed, Op.operands_mapOperands] at operand
      obtain ⟨w, member, rfl⟩ := List.mem_map.mp operand
      exact ⟨w, Nat.lt_trans (ordered.operands k i found w member) inside, rfl,
        ordered.marked_operand found needed w member⟩

theorem marked_name_iff (ordered : p.Ordered) (ordered' : q.Ordered) (inside : v < p.numValues) :
    Marked q.marks (f v) ↔ Marked p.marks v := by
  constructor
  · intro marked
    obtain ⟨w, inside', same, needed⟩ := renumbered.exists_of_marked ordered marked
    rwa [renumbered.name_injective inside' inside same] at needed
  · -- What the result of the first program needs, the second one needs under its new name.
    refine of_marked (P := fun v => Marked q.marks (f v)) ?_ ?_
    · rw [← renumbered.output]
      exact ordered'.marked_output
    · intro k i found marked w member
      obtain ⟨m, name, there⟩ := renumbered.exists_instruction found
      rw [name] at marked
      refine ordered'.marked_operand there marked (f w) ?_
      rw [Instruction.renamed, Op.operands_mapOperands]
      exact List.mem_map_of_mem member

end Renumbered

/-! ### What is kept -/

theorem Kept.rename_keep_self (kept : Kept A) (numInputs : Nat) (i : Instruction A)
    (room : v < kept.numbers.size) :
    (kept.keep numInputs v i).rename v = numInputs + kept.instructions.size :=
  Kept.rename_of_number (Array.getElem?_setIfInBounds_self_of_lt room)

/-- What is kept so far of two programs is the same, and needed values have the same numbers. -/
structure Kept.Same (f : Nat → Nat) (Needed : Nat → Prop) (value : Nat) (kept kept' : Kept A) :
    Prop where
  instructions : kept'.instructions = kept.instructions
  names : ∀ w < value, Needed w → kept'.rename (f w) = kept.rename w

theorem Kept.Same.keep {Needed : Nat → Prop} {n : Nat} {i : Instruction A} {kept kept' : Kept A}
    (same : Kept.Same f Needed v kept kept') (distinct : ∀ w < v, f w ≠ f v)
    (room : v < kept.numbers.size) (room' : f v < kept'.numbers.size)
    (operands : ∀ w ∈ i.op.operands, w < v ∧ Needed w) :
    Kept.Same f Needed (v + 1) (kept.keep n v i) (kept'.keep n (f v) (i.renamed f)) := by
  have names : ∀ w < v, Needed w →
      (kept'.keep n (f v) (i.renamed f)).rename (f w) = (kept.keep n v i).rename w := by
    intro w less needed
    rw [Kept.rename_keep _ _ _ (distinct w less), Kept.rename_keep _ _ _ (Nat.ne_of_lt less)]
    exact same.names w less needed
  constructor
  · apply Array.toList_inj.mp
    rw [Kept.toList_keep, Kept.toList_keep, same.instructions, Instruction.renamed_renamed]
    have agree : (i.renamed ((kept'.keep n (f v) (i.renamed f)).rename ∘ f)) =
        i.renamed (kept.keep n v i).rename :=
      Instruction.renamed_congr fun w member => names w (operands w member).1 (operands w member).2
    rw [agree]
  · intro w less needed
    rcases Nat.lt_succ_iff_lt_or_eq.mp less with before | rfl
    · exact names w before needed
    · rw [Kept.rename_keep_self _ _ _ room, Kept.rename_keep_self _ _ _ room', same.instructions]

/-- Along a renumbering that carries the marks, the same is kept. -/
theorem Renumbers.keepFrom_same {marks marks' : Array Bool} {n : Nat}
    (renumbers : Renumbers Spare f v u is js)
    (distinct : ∀ w' < v + is.length, ∀ w < w', f w ≠ f w')
    (marked : ∀ w, v ≤ w → w < v + is.length → (Marked marks' (f w) ↔ Marked marks w))
    (unneeded : ∀ u, (∀ w, f w ≠ u) → ¬ Marked marks' u) (above : n ≤ v)
    (closed : ∀ (k : Nat) i, is[k]? = some i → Marked marks (v + k) →
      ∀ w ∈ i.op.operands, w < v + k ∧ (w < n ∨ Marked marks w)) {kept kept' : Kept A}
    (room : v + is.length ≤ kept.numbers.size) (room' : u + js.length ≤ kept'.numbers.size)
    (same : Kept.Same f (fun w => w < n ∨ Marked marks w) v kept kept') :
    Kept.Same f (fun w => w < n ∨ Marked marks w) (v + is.length)
      (keepFrom n marks v is kept) (keepFrom n marks' u js kept') := by
  induction renumbers generalizing kept kept' with
  | nil => exact same
  | @spare v u i is js unnamed _ _ ih =>
      -- The walk over the second row goes on alone, and keeps nothing.
      rw [List.length_cons] at room'
      rw [keepFrom_spare (unneeded u unnamed)]
      exact ih distinct marked above closed room (by omega) same
  | @keep v u i is js here _ ih =>
      subst here
      have total : v + (i :: is).length = v + 1 + is.length := by
        rw [List.length_cons]
        omega
      rw [total] at room distinct marked ⊢
      rw [List.length_cons] at room'
      have markedHere := marked v (Nat.le_refl v) (by omega)
      have later := @ih distinct (fun w late => marked w (Nat.le_of_succ_le late)) (by omega)
        fun k j found => by
          rw [show v + 1 + k = v + (k + 1) by omega]
          exact closed (k + 1) j (by simpa using found)
      by_cases needed : Marked marks v
      · rw [keepFrom_marked needed, keepFrom_marked (markedHere.mpr needed)]
        refine later ?_ ?_ ?_
        · rwa [Kept.size_keep]
        · rw [Kept.size_keep]
          omega
        · exact same.keep (distinct v (by omega)) (by omega) (by omega) (closed 0 i rfl needed)
      · rw [keepFrom_spare needed, keepFrom_spare (needed ∘ markedHere.mp)]
        refine later room (by omega) ⟨same.instructions, fun w less reason => ?_⟩
        refine same.names w ?_ reason
        rcases Nat.lt_succ_iff_lt_or_eq.mp less with before | rfl
        · exact before
        · exact absurd reason (not_or.mpr ⟨Nat.not_lt.mpr above, needed⟩)

theorem rename_keptInputs (input : v < p.inputs.size) : p.keptInputs.rename v = v := by
  refine Kept.rename_of_number ?_
  simp [keptInputs, numValues, input, Nat.lt_add_right]

theorem size_keptInputs (p : Program A) :
    p.keptInputs.numbers.size = p.inputs.size + p.instructions.toList.length := by
  simp [keptInputs, numValues]

/-- The program without what its result does not need. -/
def pruned (p : Program A) : Program A :=
  let kept := keepFrom p.inputs.size p.marks p.inputs.size p.instructions.toList p.keptInputs
  { inputs := p.inputs, instructions := kept.instructions, output := kept.rename p.output }

theorem loweredBy_eq (p : Program A) (table : Array Nat) :
    p.loweredBy table = (p.redirectedBy table).pruned := by
  rw [loweredBy, pruned, marks_redirectedBy, keptInputs_redirectedBy, redirectedBy,
    Array.toList_map]

theorem Renumbered.pruned_eq (renumbered : Renumbered Spare f p q) (ordered : p.Ordered)
    (ordered' : q.Ordered) : q.pruned = p.pruned := by
  have total : p.inputs.size + p.instructions.toList.length = p.numValues := by
    rw [Array.length_toList, numValues]
  have start : Kept.Same f (fun w => w < p.inputs.size ∨ Marked p.marks w) p.inputs.size
      p.keptInputs q.keptInputs := by
    refine ⟨rfl, fun w input _ => ?_⟩
    rw [renumbered.fixed w input, rename_keptInputs input,
      rename_keptInputs (renumbered.inputs ▸ input)]
  have same := renumbered.instructions.keepFrom_same
    (fun w' inside w less => Nat.ne_of_lt (renumbered.name_lt_name less (total ▸ inside)))
    (fun w _ inside => renumbered.marked_name_iff ordered ordered' (total ▸ inside))
    (fun u unnamed marked => by
      obtain ⟨w, -, name, -⟩ := renumbered.exists_of_marked ordered marked
      exact unnamed w name)
    (Nat.le_refl _)
    (fun k i found marked w member => by
      rw [Array.getElem?_toList] at found
      exact ⟨ordered.operands k i found w member,
        .inr (ordered.marked_operand found marked w member)⟩)
    (Nat.le_of_eq p.size_keptInputs.symm)
    (Nat.le_of_eq (by rw [size_keptInputs, renumbered.inputs])) start
  have output := same.names p.output (total ▸ ordered.output) (.inr ordered.marked_output)
  rw [← renumbered.output] at output
  simp only [pruned, renumbered.inputs, same.instructions, output]

theorem WellTyped.ordered_redirectedBy (wellTyped : p.WellTyped) {table : Array Nat}
    (redirects : Redirects (fun _ _ => True) table) (size : table.size = p.numValues) :
    (p.redirectedBy table).Ordered where
  operands k j found :=
    ordered_redirected wellTyped redirects size (by
      simpa [redirectedBy, ← Array.getElem?_toList] using found)
  output := by
    have before := (redirects.getD size wellTyped.output).1
    have inside := wellTyped.output
    simp only [numValues, redirectedBy, Array.size_map] at inside ⊢
    omega

/-- A program and its renumbering are lowered to the same program. -/
theorem Renumbered.lower_eq (renumbered : Renumbered Spare f p q) (wellTyped : p.WellTyped)
    (wellTyped' : q.WellTyped) : ∃ l, p.lower = .ok l ∧ q.lower = .ok l := by
  obtain ⟨table, forwarded, size, redirects⟩ :=
    p.forwarding_spec (fun _ _ => True) wellTyped (fun _ => trivial)
      fun _ _ _ _ _ _ _ _ _ => trivial
  obtain ⟨table', forwarded', size', redirects'⟩ :=
    q.forwarding_spec (fun _ _ => True) wellTyped' (fun _ => trivial)
      fun _ _ _ _ _ _ _ _ _ => trivial
  have redirected := renumbered.redirectedBy wellTyped fun v inside =>
    renumbered.getD_name wellTyped wellTyped' forwarded size forwarded' size' inside
  have same := redirected.pruned_eq (wellTyped.ordered_redirectedBy redirects size)
    (wellTyped'.ordered_redirectedBy redirects' size')
  refine ⟨p.loweredBy table, p.lower_eq_ok wellTyped forwarded size, ?_⟩
  rw [q.lower_eq_ok wellTyped' forwarded' size', loweredBy_eq, loweredBy_eq, same]

end Program

end Diffusion
