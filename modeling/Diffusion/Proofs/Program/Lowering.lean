import Diffusion.Program.Lowering
import Diffusion.Proofs.Arithmetic.Whole
import Diffusion.Proofs.Backend.Eager
import Diffusion.Proofs.Backend.Functional
import Diffusion.Proofs.Program.Typing

/-!
Lowering keeps what a program computes.

`forwardFrom`, `markFrom` and `keepFrom` are the passes as `lower` runs them, with lenient access to
their tables. Each has a specification of its own: `forwardFrom_spec` for the redirections,
`markFrom_spec` for the values needed, `keepFrom_carries` for the renumbering. Main statement:
`lower_preserves`.
-/

namespace Diffusion.Program

variable {A : Arithmetic} {σ τ : Type} (p : Program A)

/-! ### Redirections -/

section Forwarding

def forwardStep (value : Nat) (i : Instruction A) (table : Array Nat) : Except Halt (Array Nat) :=
  forwardStepBy .lenient value i table

def forwardFrom (value : Nat) (is : List (Instruction A)) (table : Array Nat) :
    Except Halt (Array Nat) :=
  forwardBy .lenient value is table

def forwarding : Except Halt (Array Nat) := p.forwardingBy .lenient

theorem forwardFrom_cons (value : Nat) (i : Instruction A) (rest : List (Instruction A))
    (table : Array Nat) :
    forwardFrom value (i :: rest) table =
      forwardStep value i table >>= forwardFrom (value + 1) rest :=
  rfl

variable {Alike : Nat → Nat → Prop}

/-- A redirection leads to an earlier value, or to the value itself, that is like it. -/
def Redirects (Alike : Nat → Nat → Prop) (table : Array Nat) : Prop :=
  ∀ v t : Nat, table[v]? = some t → t ≤ v ∧ Alike t v

theorem Redirects.set {table : Array Nat} (sound : Redirects Alike table) {value target : Nat}
    (le : target ≤ value) (alike : Alike target value) :
    Redirects Alike (table.setIfInBounds value target) := by
  intro v t found
  rw [Array.getElem?_setIfInBounds] at found
  split at found
  · rename_i same
    subst same
    split at found
    · cases found
      exact ⟨le, alike⟩
    · cases found
  · exact sound v t found

/-- Redirecting through instructions stays sound, as long as each multiplication by one is like its
input. -/
theorem forwardFrom_spec {is : List (Instruction A)} (value : Nat) {table : Array Nat}
    (sound : Redirects Alike table) (room : value + is.length ≤ table.size)
    (ordered : ∀ (j : Nat) i, is[j]? = some i → ∀ v ∈ i.op.operands, v < value + j)
    (skips : ∀ (j : Nat) i input factor, is[j]? = some i → i.op = .scale input factor →
      A.isOne factor = true → ∀ t, Alike t input → Alike t (value + j)) :
    ∃ redirected, forwardFrom value is table = .ok redirected ∧ redirected.size = table.size ∧
      Redirects Alike redirected := by
  induction is generalizing value table with
  | nil => exact ⟨table, rfl, rfl, sound⟩
  | cons i rest ih =>
      have stepped : ∃ next, forwardStep value i table = .ok next ∧ next.size = table.size ∧
          Redirects Alike next := by
        unfold forwardStep forwardStepBy
        split
        · rename_i input factor op
          split
          · rename_i one
            have before : input < value := by
              simpa [op, Op.operands] using ordered 0 i rfl input (by simp [op, Op.operands])
            have inside : input < table.size := by
              have := room
              rw [List.length_cons] at this
              omega
            have entry : Halt.entry table input = .ok table[input] :=
              Halt.entry_eq_ok_iff.mpr (Array.getElem?_eq_getElem inside)
            obtain ⟨le, alike⟩ := sound input _ (Array.getElem?_eq_getElem inside)
            refine ⟨table.setIfInBounds value table[input], by rw [entry]; rfl, by simp, ?_⟩
            exact sound.set (by omega) (skips 0 i input factor rfl op one _ alike)
          · exact ⟨table, rfl, rfl, sound⟩
        · exact ⟨table, rfl, rfl, sound⟩
      obtain ⟨next, first, size, soundNext⟩ := stepped
      obtain ⟨redirected, later, sizeLater, soundLater⟩ := ih (value + 1) soundNext
        (by rw [size]; rw [List.length_cons] at room; omega)
        (fun j i found v member => by
          have := ordered (j + 1) i (by simpa using found) v member
          omega)
        (fun j i input factor found op one t alike => by
          have := skips (j + 1) i input factor (by simpa using found) op one t alike
          rwa [show value + (j + 1) = value + 1 + j by omega] at this)
      refine ⟨redirected, ?_, sizeLater.trans size, soundLater⟩
      rw [forwardFrom_cons, first]
      exact later

theorem forwarding_spec (Alike : Nat → Nat → Prop) (wellTyped : p.WellTyped) (refl : ∀ v, Alike v v)
    (skips : ∀ (k : Nat) i input factor, p.instructions[k]? = some i → i.op = .scale input factor →
      A.isOne factor = true → ∀ t, Alike t input → Alike t (p.inputs.size + k)) :
    ∃ table, p.forwarding = .ok table ∧ table.size = p.numValues ∧ Redirects Alike table := by
  have start : Redirects Alike (Array.range p.numValues) := by
    intro v t found
    obtain ⟨inside, rfl⟩ := Array.getElem?_eq_some_iff.mp found
    simp [refl]
  have ordered : ∀ (j : Nat) i, p.instructions.toList[j]? = some i →
      ∀ v ∈ i.op.operands, v < p.inputs.size + j :=
    fun j i found => wellTyped.ordered j i (by simpa using found)
  obtain ⟨table, forwarded, size, sound⟩ := forwardFrom_spec p.inputs.size start
    (by simp [numValues]) ordered
    (fun j i input factor found => skips j i input factor (by simpa using found))
  exact ⟨table, forwarded, by simpa using size, sound⟩

end Forwarding

/-- An instruction whose operands are redirected by a table. -/
def redirected (table : Array Nat) (i : Instruction A) : Instruction A :=
  { i with op := i.op.mapOperands fun v => table.getD v v }

theorem redirect_eq_ok {table : Array Nat} {op : Op A}
    (inside : ∀ v ∈ op.operands, v < table.size) :
    redirect table op = .ok (op.mapOperands fun v => table.getD v v) :=
  Op.mapOperandsM_eq_ok fun v member =>
    Halt.entry_eq_ok_iff.mpr (by simp [Array.getD, inside v member])

/-! ### Needed values -/

def Marked (marks : Array Bool) (v : Nat) : Prop := marks.getD v false = true

def mark (marks : Array Bool) (value : Nat) : Array Bool := marks.setIfInBounds value true

theorem marked_mark {marks : Array Bool} {value v : Nat} :
    Marked (mark marks value) v ↔ Marked marks v ∨ v = value ∧ v < marks.size := by
  unfold Marked mark
  rw [Array.getD_eq_getD_getElem?, Array.getD_eq_getD_getElem?, Array.getElem?_setIfInBounds]
  by_cases same : value = v
  · subst same
    by_cases inside : value < marks.size
    · simp [inside]
    · simp [inside]
  · simp [same, Ne.symm same]

@[simp] theorem size_mark (marks : Array Bool) (value : Nat) :
    (mark marks value).size = marks.size := by
  simp [mark]

@[simp] theorem size_foldl_mark (operands : List Nat) (marks : Array Bool) :
    (operands.foldl mark marks).size = marks.size := by
  induction operands generalizing marks with
  | nil => rfl
  | cons operand rest ih => rw [List.foldl_cons, ih, size_mark]

theorem marked_foldl_mark {operands : List Nat} {marks : Array Bool} {v : Nat} :
    Marked (operands.foldl mark marks) v ↔ Marked marks v ∨ v ∈ operands ∧ v < marks.size := by
  induction operands generalizing marks with
  | nil => simp
  | cons operand rest ih =>
      rw [List.foldl_cons, ih, marked_mark, size_mark, List.mem_cons]
      constructor
      · rintro ((before | ⟨rfl, inside⟩) | ⟨member, inside⟩)
        · exact .inl before
        · exact .inr ⟨.inl rfl, inside⟩
        · exact .inr ⟨.inr member, inside⟩
      · rintro (before | ⟨rfl | member, inside⟩)
        · exact .inl (.inl before)
        · exact .inl (.inr ⟨rfl, inside⟩)
        · exact .inr ⟨member, inside⟩

/-- The operands of an instruction become marked if its value is. -/
def marksBefore (value : Nat) (i : Instruction A) (marks : Array Bool) : Array Bool :=
  markStepBy (m := Id) .lenient value i marks

def markFrom (value : Nat) (is : List (Instruction A)) (marks : Array Bool) : Array Bool :=
  markBy (m := Id) .lenient value is marks

def needed (instructions : List (Instruction A)) (output : Nat) : Array Bool :=
  p.neededBy (m := Id) .lenient instructions output

theorem marksBefore_eq (value : Nat) (i : Instruction A) (marks : Array Bool) :
    marksBefore value i marks =
      if marks.getD value false then i.op.operands.foldl mark marks else marks := by
  unfold marksBefore markStepBy
  by_cases marked : marks.getD value false = true
  · rw [if_pos marked]
    exact (if_pos marked).trans List.idRun_foldlM
  · rw [if_neg marked]
    exact if_neg marked

theorem marked_marksBefore {value v : Nat} {i : Instruction A} {marks : Array Bool} :
    Marked (marksBefore value i marks) v ↔
      Marked marks v ∨ Marked marks value ∧ v ∈ i.op.operands ∧ v < marks.size := by
  rw [marksBefore_eq]
  by_cases marked : marks.getD value false = true
  · rw [if_pos marked, marked_foldl_mark]
    simp [Marked, marked]
  · rw [if_neg marked]
    simp [Marked, marked]

@[simp] theorem size_marksBefore (value : Nat) (i : Instruction A) (marks : Array Bool) :
    (marksBefore value i marks).size = marks.size := by
  rw [marksBefore_eq]
  split <;> simp

/-- Walking back over instructions only adds marks, adds none from the walk's start on, and leaves
every operand of a marked instruction marked. -/
theorem markFrom_spec {is : List (Instruction A)} (value : Nat) (marks : Array Bool)
    (room : is.length ≤ value + 1)
    (ordered : ∀ (j : Nat) i, is[j]? = some i → ∀ v ∈ i.op.operands, v < value - j) :
    let after := markFrom value is marks
    after.size = marks.size ∧ (∀ v, Marked marks v → Marked after v) ∧
      (∀ v, value ≤ v → Marked after v → Marked marks v) ∧
      ∀ (j : Nat) i, is[j]? = some i → Marked after (value - j) →
        ∀ v ∈ i.op.operands, v < marks.size → Marked after v := by
  induction is generalizing value marks with
  | nil => exact ⟨rfl, fun _ marked => marked, fun _ _ marked => marked, by simp⟩
  | cons i before ih =>
      intro after
      rw [List.length_cons] at room
      have here : ∀ v ∈ i.op.operands, v < value := ordered 0 i rfl
      have orderedBefore : ∀ (j : Nat) k, before[j]? = some k →
          ∀ v ∈ k.op.operands, v < value - 1 - j := by
        intro j k found v member
        have := ordered (j + 1) k (by simpa using found) v member
        omega
      obtain ⟨size, grows, keeps, closed⟩ :=
        ih (value - 1) (marksBefore value i marks) (by omega) orderedBefore
      change after.size = _ at size
      change ∀ v, _ → Marked after v at grows
      change ∀ v, _ → Marked after v → _ at keeps
      rw [size_marksBefore] at size
      have keepsHere : ∀ v, value ≤ v → Marked after v → Marked marks v := by
        intro v le marked
        rcases marked_marksBefore.mp (keeps v (by omega) marked) with before | ⟨_, member, _⟩
        · exact before
        · exact absurd (here v member) (Nat.not_lt.mpr le)
      refine ⟨size, fun v marked => grows v (marked_marksBefore.mpr (.inl marked)), keepsHere, ?_⟩
      intro j k found marked v member inside
      cases j with
      | zero =>
          have same : i = k := by simpa using found
          subst same
          have markedHere := keepsHere value (Nat.le_refl _) marked
          exact grows v (marked_marksBefore.mpr (.inr ⟨markedHere, member, inside⟩))
      | succ j =>
          rw [show value - (j + 1) = value - 1 - j by omega] at marked
          exact closed j k (by simpa using found) marked v member (by simpa using inside)

theorem needed_spec {is : List (Instruction A)} {output : Nat}
    (count : is.length = p.instructions.size)
    (ordered : ∀ (k : Nat) i, is[k]? = some i → ∀ v ∈ i.op.operands, v < p.inputs.size + k)
    (inside : output < p.numValues) :
    Marked (p.needed is output) output ∧
      ∀ (k : Nat) i, is[k]? = some i → Marked (p.needed is output) (p.inputs.size + k) →
        ∀ v ∈ i.op.operands, Marked (p.needed is output) v := by
  have numbered : p.numValues = p.inputs.size + is.length := by rw [numValues, count]
  let start := mark (Array.replicate p.numValues false) output
  have size : start.size = p.numValues := by simp [start]
  have reversed : ∀ (j : Nat) i, is.reverse[j]? = some i →
      j < is.length ∧ is[is.length - 1 - j]? = some i := by
    intro j i found
    have bound : j < is.length := by simpa using (List.getElem?_eq_some_iff.mp found).1
    rw [List.getElem?_reverse bound] at found
    exact ⟨bound, found⟩
  have room : is.reverse.length ≤ p.numValues - 1 + 1 := by
    rw [List.length_reverse]
    omega
  obtain ⟨-, grows, -, closed⟩ := markFrom_spec (p.numValues - 1) start room
    (fun j i found v member => by
      obtain ⟨bound, there⟩ := reversed j i found
      have := ordered _ i there v member
      omega)
  refine ⟨grows output (marked_mark.mpr (.inr ⟨rfl, by simpa using inside⟩)), ?_⟩
  intro k i found marked v member
  have bound : k < is.length := (List.getElem?_eq_some_iff.mp found).1
  have before := ordered k i found v member
  refine closed (is.length - 1 - k) i ?_ ?_ v member (by omega)
  · rw [List.getElem?_reverse (by omega), ← found]
    congr 1
    omega
  · rwa [show p.numValues - 1 - (is.length - 1 - k) = p.inputs.size + k by omega]

/-! ### Renumbering -/

/-- How far a replay of the kept instructions has come: every needed value so far has a number, and
under it the tensor that it has in the program given. -/
structure Carried (B : Backend A σ τ) (inputs : List τ) (marks : Array Bool) (all : Array τ)
    (value : Nat) (kept : Kept A) : Prop where
  replays : ∃ values, (retain B kept.instructions.toList inputs.toArray).Answers values ∧
    values.size = inputs.length + kept.instructions.size ∧
    ∀ v, v < value → v < inputs.length ∨ Marked marks v →
      ∃ number x, kept.numbers[v]? = some (some number) ∧ values[number]? = some x ∧
        all[v]? = some x

/-- The new number of a value; one without keeps its own. -/
def Kept.rename (kept : Kept A) (value : Nat) : Nat :=
  (kept.numbers.getD value none).getD value

theorem Kept.rename_of_number {kept : Kept A} {v number : Nat}
    (numbered : kept.numbers[v]? = some (some number)) : kept.rename v = number := by
  rw [Kept.rename, Array.getD_eq_getD_getElem?, numbered]
  rfl

/-- An operation with renamed operands does over some values what it does over others, if they agree
up to the renaming. -/
theorem perform_mapOperands {B : Backend A σ τ} {held values : Array (Option τ)} {f : Nat → Nat}
    {op : Op A} (same : ∀ v ∈ op.operands, lookup held (f v) = lookup values v) :
    perform B held (op.mapOperands f) = perform B values op := by
  cases op <;>
    simp only [Op.operands, List.mem_cons, List.not_mem_nil, or_false, forall_eq_or_imp,
      forall_eq] at same <;>
    simp only [perform, Op.mapOperands, Op.mapOperandsM, pure_bind, Id.run_pure, same]

theorem lookup_congr {held values : Array τ} {v w : Nat} (same : held[v]? = values[w]?)
    {x : τ} (found : values[w]? = some x) :
    lookup (held.map some) v = lookup (values.map some) w := by
  rw [lookup_map_some, lookup_map_some, same, found]

variable {B : Backend A σ τ} {inputs : List τ} {marks : Array Bool} {all : Array τ}

/-- What is kept after one more instruction that is needed. -/
def Kept.keep (kept : Kept A) (numInputs value : Nat) (i : Instruction A) : Kept A :=
  kept.keepBy (m := Id) .lenient numInputs value i

def keepFrom (numInputs : Nat) (marks : Array Bool) (value : Nat) (is : List (Instruction A))
    (kept : Kept A) : Kept A :=
  keepBy (m := Id) .lenient numInputs marks value is kept

@[simp] theorem keepFrom_nil (numInputs : Nat) (marks : Array Bool) (value : Nat) (kept : Kept A) :
    keepFrom numInputs marks value [] kept = kept :=
  rfl

theorem keepFrom_cons (numInputs : Nat) (marks : Array Bool) (value : Nat) (i : Instruction A)
    (rest : List (Instruction A)) (kept : Kept A) :
    keepFrom numInputs marks value (i :: rest) kept =
      keepFrom numInputs marks (value + 1) rest
        (if marks.getD value false then kept.keep numInputs value i else kept) :=
  rfl

theorem keepFrom_marked {marks : Array Bool} {numInputs value : Nat} {i : Instruction A}
    {rest : List (Instruction A)} {kept : Kept A} (marked : Marked marks value) :
    keepFrom numInputs marks value (i :: rest) kept =
      keepFrom numInputs marks (value + 1) rest (kept.keep numInputs value i) := by
  rw [keepFrom_cons, if_pos (show marks.getD value false = true from marked)]

theorem keepFrom_spare {marks : Array Bool} {numInputs value : Nat} {i : Instruction A}
    {rest : List (Instruction A)} {kept : Kept A} (spare : ¬ Marked marks value) :
    keepFrom numInputs marks value (i :: rest) kept =
      keepFrom numInputs marks (value + 1) rest kept := by
  rw [keepFrom_cons, if_neg (show ¬ marks.getD value false = true from spare)]

@[simp] theorem Kept.size_keep (kept : Kept A) (numInputs value : Nat) (i : Instruction A) :
    (kept.keep numInputs value i).numbers.size = kept.numbers.size :=
  Array.size_setIfInBounds

theorem Carried.keep {value : Nat} {kept : Kept A} {i : Instruction A} {x : τ}
    (carried : Carried B inputs marks all value kept) (room : value < kept.numbers.size)
    (operands : ∀ v ∈ i.op.operands, v < value ∧ (v < inputs.length ∨ Marked marks v))
    (found : all[value]? = some x) (solved : Solved B all i x) :
    Carried B inputs marks all (value + 1) (kept.keep inputs.length value i) := by
  obtain ⟨values, replays, size, numbered⟩ := carried.replays
  let number := inputs.length + kept.instructions.size
  let renamed := (kept.keep inputs.length value i).rename
  have earlier : ∀ v, v ≠ value →
      (kept.keep inputs.length value i).numbers[v]? = kept.numbers[v]? := by
    intro v different
    exact Array.getElem?_setIfInBounds_ne (Ne.symm different)
  have agrees : ∀ v ∈ i.op.operands,
      lookup (values.map some) (renamed v) = lookup (all.map some) v := by
    intro v member
    obtain ⟨before, needed⟩ := operands v member
    obtain ⟨old, y, entry, here, there⟩ := numbered v before needed
    have renames : renamed v = old :=
      Kept.rename_of_number ((earlier v (Nat.ne_of_lt before)).trans entry)
    rw [renames]
    exact lookup_congr (here.trans there.symm) there
  have solves : Solved B values { i with op := i.op.mapOperands renamed } x :=
    ⟨by rw [perform_mapOperands agrees]; exact solved.1, solved.2⟩
  have one : (retain B [{ i with op := i.op.mapOperands renamed }] values).Answers
      (values.push x) :=
    (performDeclared_answers values.size solves).bind (Action.answers_pure _)
  refine ⟨values.push x, ?_, ?_, ?_⟩
  · change (retain B (kept.instructions.push _).toList inputs.toArray).Answers (values.push x)
    rw [Array.toList_push, retain_append]
    exact replays.bind one
  · change (values.push x).size = inputs.length + (kept.instructions.push _).size
    rw [Array.size_push, Array.size_push, size, Nat.add_assoc]
  · intro v bound needed
    by_cases newest : v = value
    · subst newest
      refine ⟨number, x, ?_, ?_, found⟩
      · exact Array.getElem?_setIfInBounds_self_of_lt room
      · rw [show number = values.size from size.symm, Array.getElem?_push_size]
    · obtain ⟨old, y, entry, here, there⟩ := numbered v (by omega) needed
      refine ⟨old, y, (earlier v newest).trans entry, ?_, there⟩
      have inside := (Array.getElem?_eq_some_iff.mp here).1
      rw [Array.getElem?_push, if_neg (Nat.ne_of_lt inside), here]

theorem Carried.skip {value : Nat} {kept : Kept A} (carried : Carried B inputs marks all value kept)
    (above : inputs.length ≤ value) (spare : ¬ Marked marks value) :
    Carried B inputs marks all (value + 1) kept := by
  obtain ⟨values, replays, size, numbered⟩ := carried.replays
  refine ⟨values, replays, size, fun v bound needed => numbered v ?_ needed⟩
  rcases Nat.lt_succ_iff_lt_or_eq.mp bound with before | rfl
  · exact before
  · rcases needed with input | marked
    · omega
    · exact absurd marked spare

theorem keepFrom_carries {is : List (Instruction A)} {value : Nat} {kept : Kept A}
    (carried : Carried B inputs marks all value kept) (above : inputs.length ≤ value)
    (room : value + is.length ≤ kept.numbers.size)
    (closed : ∀ (j : Nat) i, is[j]? = some i → Marked marks (value + j) →
      ∀ v ∈ i.op.operands, v < value + j ∧ (v < inputs.length ∨ Marked marks v))
    (solved : ∀ (j : Nat) i, is[j]? = some i →
      ∃ x, all[value + j]? = some x ∧ Solved B all i x) :
    Carried B inputs marks all (value + is.length)
      (keepFrom inputs.length marks value is kept) := by
  induction is generalizing value kept with
  | nil => exact carried
  | cons i rest ih =>
      rw [List.length_cons] at room ⊢
      have closedRest : ∀ (j : Nat) k, rest[j]? = some k → Marked marks (value + 1 + j) →
          ∀ v ∈ k.op.operands, v < value + 1 + j ∧ (v < inputs.length ∨ Marked marks v) := by
        intro j k found
        rw [show value + 1 + j = value + (j + 1) by omega]
        exact closed (j + 1) k (by simpa using found)
      have solvedRest : ∀ (j : Nat) k, rest[j]? = some k →
          ∃ x, all[value + 1 + j]? = some x ∧ Solved B all k x := by
        intro j k found
        rw [show value + 1 + j = value + (j + 1) by omega]
        exact solved (j + 1) k (by simpa using found)
      rw [show value + (rest.length + 1) = value + 1 + rest.length by omega]
      by_cases marked : Marked marks value
      · rw [keepFrom_marked marked]
        obtain ⟨x, found, solves⟩ := solved 0 i rfl
        refine ih (carried.keep (by omega) (closed 0 i rfl marked) found solves) (by omega) ?_
          closedRest solvedRest
        rw [Kept.size_keep]
        omega
      · rw [keepFrom_spare marked]
        exact ih (carried.skip above marked) (by omega) (by omega) closedRest solvedRest

/-! ### The whole of it -/

/-- The program that is left once its operands are redirected by a table. -/
def loweredBy (table : Array Nat) : Program A :=
  let instructions := p.instructions.toList.map (redirected table)
  let output := table.getD p.output p.output
  let marks := p.needed instructions output
  let kept := keepFrom p.inputs.size marks p.inputs.size instructions p.keptInputs
  { inputs := p.inputs, instructions := kept.instructions, output := kept.rename output }

theorem mapM_redirect (wellTyped : p.WellTyped) {table : Array Nat}
    (size : table.size = p.numValues) :
    (p.instructions.toList.mapM fun i => do
      let op ← redirect table i.op
      return ({ i with op } : Instruction A)) =
        .ok (p.instructions.toList.map (redirected table)) := by
  refine Halt.mapM_eq_ok fun i member => ?_
  obtain ⟨k, found⟩ := List.mem_iff_getElem?.mp member
  rw [Array.getElem?_toList] at found
  have bound := (Array.getElem?_eq_some_iff.mp found).1
  rw [redirect_eq_ok fun v operand => ?_]
  · rfl
  · have := wellTyped.ordered k i found v operand
    rw [size, numValues]
    omega

theorem entry_output (wellTyped : p.WellTyped) {table : Array Nat}
    (size : table.size = p.numValues) :
    Halt.entry table p.output = .ok (table.getD p.output p.output) := by
  have inside : p.output < table.size := size ▸ wellTyped.output
  refine Halt.entry_eq_ok_iff.mpr ?_
  simp [Array.getD, inside]

theorem lower_eq_ok (wellTyped : p.WellTyped) {table : Array Nat}
    (forwarded : p.forwarding = .ok table) (size : table.size = p.numValues) :
    p.lower = .ok (p.loweredBy table) := by
  rw [lower, lowerBy, show p.forwardingBy .lenient = .ok table from forwarded, Halt.bind_ok,
    p.mapM_redirect wellTyped size, Halt.bind_ok, p.entry_output wellTyped size]
  rfl

variable {p}

theorem Solved.eq_input (unique : A.OneIsUnique)
    (neutral : ∀ x, (B.scale x (A.narrow 1)).Answers x) {i : Instruction A} {input : Nat}
    {factor : A.Wide} (op : i.op = .scale input factor) (one : A.isOne factor = true) {x : τ}
    (s : σ) (solved : Solved B all i x) : all[input]? = some x := by
  have performed : (perform B (all.map some) i.op).runOn s =
      (.ok x, ((perform B (all.map some) i.op).runOn s).2) := Prod.ext (solved.1 s) rfl
  obtain ⟨y, found⟩ := lookup_of_perform performed input (by simp [op, Op.operands])
  have answers := solved.1 s
  rw [op, perform_scale found, unique factor one, neutral y s] at answers
  cases answers
  rw [lookup_map_some] at found
  split at found
  · rename_i here
    cases found
    exact here
  · cases found

/-- The values that a program has on inputs: theirs first, then a result of every instruction. -/
structure Solution (p : Program A) (B : Backend A σ τ) (inputs : List τ) (all : Array τ) :
    Prop where
  count : inputs.length = p.inputs.size
  total : all.size = p.numValues
  starts : ∀ (v : Nat) (x : τ), inputs.toArray[v]? = some x → all[v]? = some x
  solved : ∀ (k : Nat) i, p.instructions[k]? = some i →
    ∃ x, all[p.inputs.size + k]? = some x ∧ Solved B all i x

section Lowered

variable {table : Array Nat}

theorem getElem?_redirected {k : Nat} {j : Instruction A} :
    (p.instructions.toList.map (redirected table))[k]? = some j ↔
      ∃ i, p.instructions[k]? = some i ∧ redirected table i = j := by
  rw [List.getElem?_map, Array.getElem?_toList, Option.map_eq_some_iff]

theorem lt_numValues {k : Nat} {i : Instruction A} (found : p.instructions[k]? = some i) :
    p.inputs.size + k < p.numValues := by
  have := (Array.getElem?_eq_some_iff.mp found).1
  rw [numValues]
  omega

theorem Redirects.getD {Alike : Nat → Nat → Prop} (redirects : Redirects Alike table)
    (size : table.size = p.numValues) {v : Nat} (inside : v < p.numValues) :
    table.getD v v ≤ v ∧ Alike (table.getD v v) v := by
  refine redirects v _ ?_
  simp [Array.getD, size, inside]

theorem ordered_redirected {Alike : Nat → Nat → Prop} (wellTyped : p.WellTyped)
    (redirects : Redirects Alike table) (size : table.size = p.numValues) {k : Nat}
    {j : Instruction A} (found : (p.instructions.toList.map (redirected table))[k]? = some j) :
    ∀ v ∈ j.op.operands, v < p.inputs.size + k := by
  intro v member
  obtain ⟨i, there, rfl⟩ := getElem?_redirected.mp found
  obtain ⟨u, operand, rfl⟩ : ∃ u ∈ i.op.operands, table.getD u u = v := by
    simpa [redirected] using member
  have before := wellTyped.ordered k i there u operand
  have := (redirects.getD size (Nat.lt_trans before (lt_numValues there))).1
  omega

theorem Solution.redirected (solution : p.Solution B inputs all) (wellTyped : p.WellTyped)
    (redirects : Redirects (fun t v => all[t]? = all[v]?) table)
    (size : table.size = p.numValues) {k : Nat} {j : Instruction A}
    (found : (p.instructions.toList.map (redirected table))[k]? = some j) :
    ∃ x, all[p.inputs.size + k]? = some x ∧ Solved B all j x := by
  obtain ⟨i, there, rfl⟩ := getElem?_redirected.mp found
  obtain ⟨x, value, solves⟩ := solution.solved k i there
  refine ⟨x, value, ?_, solves.2⟩
  rw [Program.redirected, perform_mapOperands fun v member => ?_]
  · exact solves.1
  · have inside := Nat.lt_trans (wellTyped.ordered k i there v member) (lt_numValues there)
    exact lookup_congr (redirects.getD size inside).2
      (Array.getElem?_eq_getElem (solution.total.symm ▸ inside))

/-- The program that is left computes the value that the program given has as its result. -/
theorem Solution.loweredBy (solution : p.Solution B inputs all) (wellTyped : p.WellTyped)
    (redirects : Redirects (fun t v => all[t]? = all[v]?) table)
    (size : table.size = p.numValues) :
    ∃ values, (retain B (p.loweredBy table).instructions.toList inputs.toArray).Answers values ∧
      values[(p.loweredBy table).output]? = all[p.output]? := by
  let instructions := p.instructions.toList.map (Program.redirected table)
  let output := table.getD p.output p.output
  let marks := p.needed instructions output
  obtain ⟨le, sameOutput⟩ := redirects.getD size wellTyped.output
  have inside : output < p.numValues := Nat.lt_of_le_of_lt le wellTyped.output
  have ordered : ∀ (k : Nat) j, instructions[k]? = some j →
      ∀ v ∈ j.op.operands, v < p.inputs.size + k :=
    fun k j found => ordered_redirected wellTyped redirects size found
  obtain ⟨outputMarked, closed⟩ := p.needed_spec (by simp [instructions]) ordered inside
  have start : Carried B inputs marks all p.inputs.size p.keptInputs := by
    refine ⟨inputs.toArray, Action.answers_pure _, by simp [keptInputs], fun v bound _ => ?_⟩
    have room : v < inputs.toArray.size := by simp [solution.count, bound]
    have here := Array.getElem?_eq_getElem room
    refine ⟨v, _, ?_, here, solution.starts v _ here⟩
    simp [keptInputs, numValues, bound, Nat.lt_add_right]
  have carried := keepFrom_carries start (Nat.le_of_eq solution.count)
    (by simp [instructions, keptInputs, numValues])
    (fun k j found marked v member =>
      ⟨ordered k j found v member, .inr (closed k j found marked v member)⟩)
    (fun k j found => solution.redirected wellTyped redirects size found)
  rw [solution.count] at carried
  obtain ⟨values, replays, -, numbered⟩ := carried.replays
  obtain ⟨number, x, entry, here, there⟩ :=
    numbered output (by simpa [instructions, numValues] using inside) (.inr outputMarked)
  refine ⟨values, replays, ?_⟩
  change values[Kept.rename _ output]? = _
  rw [Kept.rename_of_number entry, here, ← sameOutput, there]

end Lowered

theorem solution_of_retain (functional : B.Functional) {s after : σ}
    (count : inputs.length = p.inputs.size)
    (ran : (retain B p.instructions.toList inputs.toArray).runOn s = (.ok all, after)) :
    p.Solution B inputs all := by
  obtain ⟨size, starts, solved⟩ := solved_of_retain functional ran
  refine ⟨count, by simpa [numValues, count] using size, starts, fun k i found => ?_⟩
  obtain ⟨x, value, solves⟩ := solved k i (by simpa using found)
  exact ⟨x, by simpa [count] using value, solves⟩

/-- Every checked program can be lowered. -/
theorem exists_lower (wellTyped : p.WellTyped) :
    ∃ table, p.forwarding = .ok table ∧ table.size = p.numValues ∧
      p.lower = .ok (p.loweredBy table) := by
  obtain ⟨table, forwarded, size, -⟩ :=
    p.forwarding_spec (fun _ _ => True) wellTyped (fun _ => trivial)
      fun _ _ _ _ _ _ _ _ _ => trivial
  exact ⟨table, forwarded, size, p.lower_eq_ok wellTyped forwarded size⟩

/-- Where a checked program has a result, the lowered one has the same. -/
theorem execute_of_lower (unique : A.OneIsUnique) (functional : B.Functional)
    (neutral : ∀ x, (B.scale x (A.narrow 1)).Answers x) (valid : p.Valid) {q : Program A}
    (lowered : p.lower = .ok q) {v : τ} {s : σ}
    (executed : ((p.execute B inputs).runOn s).1 = .ok v) : (q.execute B inputs).Answers v := by
  have wellTyped := p.valid_iff_wellTyped.mp valid
  obtain ⟨table, forwarded, size, program⟩ := exists_lower wellTyped
  cases lowered.symm.trans program
  obtain ⟨accepted, all, ran, result⟩ := p.of_execute (Prod.ext executed rfl)
  rw [execute_eq_retaining, executeRetaining]
  have count : inputs.length = p.inputs.size := by
    simpa using congrArg List.length (p.checkInputs_eq_ok_iff.mp accepted)
  have solution := solution_of_retain functional count ran
  obtain ⟨_, forwardedToo, -, redirects⟩ :=
    p.forwarding_spec (fun t v => all[t]? = all[v]?) wellTyped (fun _ => rfl) <| by
      intro k i input factor found op one t alike
      obtain ⟨x, value, solves⟩ := solution.solved k i found
      rw [alike, value]
      exact solves.eq_input unique neutral op one s
  cases forwarded.symm.trans forwardedToo
  obtain ⟨values, replays, sameResult⟩ := solution.loweredBy wellTyped redirects size
  change (Action.ofExcept (p.checkInputs B inputs) >>= _).Answers v
  rw [accepted, Action.ofExcept_ok, pure_bind]
  refine replays.bind ?_
  rw [resultOf_eq_pure (sameResult.trans result)]
  exact Action.answers_pure v

/-- Lowering preserves meaning: a checked program can be lowered, and on all inputs on which it has
a result, so has the lowered one, and the same. This holds over every backend whose answers are
functions of their arguments and whose tensors are not changed by one. -/
theorem lower_preserves (unique : A.OneIsUnique) (functional : B.Functional)
    (neutral : ∀ x, (B.scale x (A.narrow 1)).Answers x) (valid : p.Valid) :
    ∃ q, p.lower = .ok q ∧ ∀ (inputs : List τ) (v : τ) (s s' : σ),
      ((p.execute B inputs).runOn s).1 = .ok v → ((q.execute B inputs).runOn s').1 = .ok v := by
  obtain ⟨table, -, -, lowered⟩ := exists_lower (p.valid_iff_wellTyped.mp valid)
  refine ⟨_, lowered, fun inputs v s s' executed => ?_⟩
  exact execute_of_lower unique functional neutral valid lowered executed s'

/-- A tensor times one, which is then tripled, and a sum that nothing reads. -/
def roundabout : Program whole where
  inputs := #[⟨"x", [2]⟩]
  instructions := #[⟨.scale 0 (1 : Int), [2]⟩, ⟨.add 1 0, [2]⟩, ⟨.scale 1 (3 : Int), [2]⟩]
  output := 3

theorem lower_preserves_roundabout :
    let B := Backend.eager (A := whole) (some (Network.ofFunction fun sample _ _ => .ok sample))
    ∃ (q : Program whole) (v : Tensor Int), roundabout.lower = .ok q ∧ q.instructions.size = 1 ∧
      v.data.toList = [15, 15] ∧ ((q.execute B [.fill [2] 5]).runOn ()).1 = .ok v := by
  intro B
  have tripled : ((roundabout.execute B [.fill [2] 5]).runOn ()).1.toOption.map
      (·.data.toList) = some [15, 15] := by
    decide +kernel
  obtain ⟨v, executed, elements⟩ := Option.map_eq_some_iff.mp tripled
  have shrinks : (roundabout.lower.toOption.map (·.instructions.size)) = some 1 := by
    decide +kernel
  obtain ⟨q, lowered, preserves⟩ := lower_preserves (B := B) whole_oneIsUnique
    (Backend.functional_eager (Network.functional_ofFunction _))
    (fun x _ => congrArg Except.ok (x.scale_one whole_oneIsNeutral)) (p := roundabout) rfl
  rw [lowered] at shrinks
  exact ⟨q, v, lowered, Option.some.inj shrinks, elements,
    preserves _ v () () (Halt.toOption_eq_some_iff.mp executed)⟩

end Diffusion.Program
