import Diffusion.Proofs.Program.Lowering
import Mathlib.Logic.Relation

/-!
What is left of a program when it is lowered.

A value needs its operands and what they need. Redirecting a copy to what it is a copy of takes
nothing from what the result needs otherwise, and the instructions that are marked stay in order.
Main statement: `exists_lower_calls`, by which lowering keeps the calls of a program that its result
needs.
-/

namespace Diffusion

open Relation (ReflTransGen)

variable {A : Arithmetic}

/-- The instruction with its operands renamed. -/
def Instruction.renamed (f : Nat → Nat) (i : Instruction A) : Instruction A :=
  { i with op := i.op.mapOperands f }

theorem Instruction.renamed_renamed (f g : Nat → Nat) (i : Instruction A) :
    (i.renamed f).renamed g = i.renamed (g ∘ f) := by
  unfold renamed
  rw [Op.mapOperands_mapOperands]

theorem Instruction.renamed_congr {f g : Nat → Nat} {i : Instruction A}
    (agree : ∀ v ∈ i.op.operands, f v = g v) : i.renamed f = i.renamed g :=
  congrArg (Instruction.mk · i.shape) (Op.mapOperands_congr agree)

theorem Instruction.renamed_eq_self {f : Nat → Nat} {i : Instruction A}
    (fixed : ∀ v ∈ i.op.operands, f v = v) : i.renamed f = i :=
  (renamed_congr fixed).trans (congrArg (Instruction.mk · i.shape) i.op.mapOperands_id)

namespace Op

/-- A multiplication by one copies its input. -/
def Copies (op : Op A) (input : Nat) : Prop :=
  ∃ factor, op = .scale input factor ∧ A.isOne factor = true

/-- The timestep of a call of the network. -/
def timestep? : Op A → Option A.Elem
  | unet _ _ timestep => some timestep
  | _ => none

theorem isSome_timestep? (op : Op A) : op.timestep?.isSome = op.isCall := by
  cases op <;> rfl

@[simp] theorem timestep?_mapOperands (f : Nat → Nat) (op : Op A) :
    (op.mapOperands f).timestep? = op.timestep? := by
  cases op <;> rfl

@[simp] theorem isCall_mapOperands (f : Nat → Nat) (op : Op A) :
    (op.mapOperands f).isCall = op.isCall := by
  cases op <;> rfl

theorem Copies.isCall {op : Op A} {input : Nat} (copies : op.Copies input) : op.isCall = false := by
  obtain ⟨_, rfl, -⟩ := copies
  rfl

end Op

namespace Program

variable (p : Program A)

/-- A value reads the operands of its instruction. -/
def Reads (v u : Nat) : Prop :=
  ∃ k i, p.instructions[k]? = some i ∧ v = p.inputs.size + k ∧ u ∈ i.op.operands

/-- A value needs itself, what it reads, and what is read for that. -/
def Needs : Nat → Nat → Prop := ReflTransGen p.Reads

/-- The calls of the network, in order. -/
def callsMade : List (Instruction A) := p.instructions.toList.filter (·.op.isCall)

/-- The timesteps of the calls, in order. -/
def visits : List A.Elem := p.instructions.toList.filterMap (·.op.timestep?)

theorem visits_eq_callsMade : p.visits = p.callsMade.filterMap (·.op.timestep?) := by
  rw [visits, callsMade, List.filterMap_filter]
  refine congrArg (List.filterMap · p.instructions.toList) (funext fun i => ?_)
  rw [← Op.isSome_timestep?]
  cases i.op.timestep? <;> rfl

theorem visits_of_renamed {p q : Program A} {f : Nat → Nat}
    (same : q.callsMade = p.callsMade.map (·.renamed f)) : q.visits = p.visits := by
  rw [visits_eq_callsMade, visits_eq_callsMade, same, List.filterMap_map]
  refine congrArg (List.filterMap · p.callsMade) (funext fun i => ?_)
  exact Op.timestep?_mapOperands f i.op

theorem length_visits : p.visits.length = p.calls := by
  rw [visits, List.length_filterMap_eq_countP, calls, ← Array.countP_toList]
  exact List.countP_congr fun i _ => by rw [Op.isSome_timestep?]

/-! ### Redirections -/

theorem forwardStep_entries {value : Nat} {i : Instruction A} {table next : Array Nat}
    (stepped : forwardStep value i table = .ok next) (room : value < table.size) :
    next.size = table.size ∧ (∀ v, v ≠ value → next[v]? = table[v]?) ∧
      (∀ input, i.op.Copies input → next[value]? = table[input]?) ∧
        ((∀ input, ¬ i.op.Copies input) → next = table) := by
  unfold forwardStep forwardStepBy at stepped
  split at stepped
  · rename_i input factor op
    split at stepped
    · rename_i one
      obtain ⟨target, found, returned⟩ := Halt.bind_eq_ok_iff.mp stepped
      cases returned
      refine ⟨Array.size_setIfInBounds,
        fun v other => Array.getElem?_setIfInBounds_ne (Ne.symm other), ?_, ?_⟩
      · rintro _ ⟨_, same, -⟩
        cases op.symm.trans same
        exact (Array.getElem?_setIfInBounds_self_of_lt room).trans
          (Halt.entry_eq_ok_iff.mp found).symm
      · intro never
        exact absurd ⟨factor, op, one⟩ (never input)
    · rename_i more
      cases stepped
      refine ⟨rfl, fun _ _ => rfl, ?_, fun _ => rfl⟩
      rintro _ ⟨_, same, one⟩
      cases op.symm.trans same
      exact absurd one more
  · rename_i other
    cases stepped
    refine ⟨rfl, fun _ _ => rfl, ?_, fun _ => rfl⟩
    rintro input ⟨factor, same, -⟩
    exact absurd same (other input factor)

/-- Redirecting through instructions leaves the entries before them alone, gives a copy the entry of
its input, and leaves every other value its own. -/
theorem forwardFrom_entries {is : List (Instruction A)} {value : Nat} {table after : Array Nat}
    (forwarded : forwardFrom value is table = .ok after) (room : value + is.length ≤ table.size)
    (ordered : ∀ (j : Nat) i, is[j]? = some i → ∀ v ∈ i.op.operands, v < value + j) :
    (∀ v < value, after[v]? = table[v]?) ∧ ∀ (j : Nat) i, is[j]? = some i →
      (∀ input, i.op.Copies input → after[value + j]? = after[input]?) ∧
        ((∀ input, ¬ i.op.Copies input) → after[value + j]? = table[value + j]?) := by
  induction is generalizing value table with
  | nil =>
      cases forwarded
      exact ⟨fun _ _ => rfl, nofun⟩
  | cons i rest ih =>
      rw [List.length_cons] at room
      obtain ⟨next, first, later⟩ := Halt.bind_eq_ok_iff.mp forwarded
      obtain ⟨size, others, copies, stays⟩ := forwardStep_entries first (by omega)
      obtain ⟨before, entries⟩ := ih later (by omega) fun j k found v member => by
        have := ordered (j + 1) k (by simpa using found) v member
        omega
      have here : after[value]? = next[value]? := before value (Nat.lt_succ_self value)
      have kept : ∀ v < value, after[v]? = table[v]? := fun v less =>
        (before v (Nat.lt_succ_of_lt less)).trans (others v (Nat.ne_of_lt less))
      refine ⟨kept, fun j k found => ?_⟩
      cases j with
      | zero =>
          cases found
          refine ⟨fun input copy => ?_, fun never => ?_⟩
          · have less : input < value := by
              obtain ⟨_, op, -⟩ := copy
              exact ordered 0 i rfl input (by simp [op, Op.operands])
            exact here.trans ((copies input copy).trans (kept input less).symm)
          · exact here.trans (by rw [stays never]; rfl)
      | succ j =>
          obtain ⟨copy, own⟩ := entries j k (by simpa using found)
          rw [show value + (j + 1) = value + 1 + j by omega]
          exact ⟨copy, fun never => (own never).trans (others _ (by omega))⟩

/-- Whether a table names for every value what it is a copy of: for a copy what its input is a copy
of, and for every other result that result. -/
structure Resolves (table : Array Nat) : Prop where
  copy : ∀ (k : Nat) i input, p.instructions[k]? = some i → i.op.Copies input →
    table.getD (p.inputs.size + k) (p.inputs.size + k) = table.getD input input
  own : ∀ (k : Nat) i, p.instructions[k]? = some i → (∀ input, ¬ i.op.Copies input) →
    table.getD (p.inputs.size + k) (p.inputs.size + k) = p.inputs.size + k

variable {p} {table : Array Nat}

theorem resolves_of_forwarding (wellTyped : p.WellTyped) (forwarded : p.forwarding = .ok table)
    (size : table.size = p.numValues) : p.Resolves table := by
  obtain ⟨-, entries⟩ := forwardFrom_entries forwarded (by simp [numValues])
    fun j i found => wellTyped.ordered j i (by simpa using found)
  constructor
  · intro k i input found copies
    obtain ⟨copy, -⟩ := entries k i (by simpa using found)
    have inside : input < table.size := by
      obtain ⟨_, op, -⟩ := copies
      have := wellTyped.ordered k i found input (by simp [op, Op.operands])
      exact size ▸ Nat.lt_trans this (lt_numValues found)
    rw [Array.getD_eq_getD_getElem?, Array.getD_eq_getD_getElem?, copy input copies,
      Array.getElem?_eq_getElem inside]
    rfl
  · intro k i found never
    obtain ⟨-, own⟩ := entries k i (by simpa using found)
    rw [Array.getD_eq_getD_getElem?, own never, Array.getElem?_range, if_pos (lt_numValues found)]
    rfl

/-- Whatever the result needs, what it is a copy of is marked. -/
theorem marked_of_needs (wellTyped : p.WellTyped) (resolves : p.Resolves table)
    (redirects : Redirects (fun _ _ => True) table) (size : table.size = p.numValues) {v : Nat}
    (needs : p.Needs p.output v) :
    Marked (p.needed (p.instructions.toList.map (redirected table)) (table.getD p.output p.output))
      (table.getD v v) := by
  have inside := Nat.lt_of_le_of_lt (redirects.getD size wellTyped.output).1 wellTyped.output
  obtain ⟨outputMarked, closed⟩ := p.needed_spec (by simp)
    (fun k j found => ordered_redirected wellTyped redirects size found) inside
  induction needs with
  | refl => exact outputMarked
  | tail _ reads marked =>
      obtain ⟨k, i, found, rfl, member⟩ := reads
      by_cases copy : ∃ input, i.op.Copies input
      · -- The copy is skipped, and its input goes where the copy went.
        obtain ⟨input, factor, op, one⟩ := copy
        have same := resolves.copy k i input found ⟨factor, op, one⟩
        rw [op, Op.operands, List.mem_singleton] at member
        rwa [member, ← same]
      · rw [resolves.own k i found (not_exists.mp copy)] at marked
        refine closed k (redirected table i) (getElem?_redirected.mpr ⟨i, found, rfl⟩) marked _ ?_
        rw [redirected, Op.operands_mapOperands]
        exact List.mem_map_of_mem member

/-! ### Instructions -/

/-- The instructions whose values are marked, the first of which has the given value. -/
def markedOnes (marks : Array Bool) : Nat → List (Instruction A) → List (Instruction A)
  | _, [] => []
  | value, i :: rest =>
    if marks.getD value false then i :: markedOnes marks (value + 1) rest
    else markedOnes marks (value + 1) rest

theorem Kept.rename_keep (kept : Kept A) (numInputs : Nat) {value v : Nat} (i : Instruction A)
    (other : v ≠ value) : (kept.keep numInputs value i).rename v = kept.rename v := by
  have same : (kept.keep numInputs value i).numbers[v]? = kept.numbers[v]? :=
    Array.getElem?_setIfInBounds_ne (Ne.symm other)
  unfold Kept.rename
  rw [Array.getD_eq_getD_getElem?, Array.getD_eq_getD_getElem?, same]

theorem Kept.toList_keep (kept : Kept A) (numInputs value : Nat) (i : Instruction A) :
    (kept.keep numInputs value i).instructions.toList =
      kept.instructions.toList ++ [i.renamed (kept.keep numInputs value i).rename] :=
  Array.toList_push

/-- The marked instructions are kept in order and renamed, and no later one changes the name of an
earlier value. -/
theorem keepFrom_instructions (numInputs value : Nat) (marks : Array Bool)
    (is : List (Instruction A)) (kept : Kept A)
    (ordered : ∀ (j : Nat) i, is[j]? = some i → ∀ v ∈ i.op.operands, v < value + j) :
    let after := keepFrom numInputs marks value is kept
    (∀ v < value, after.rename v = kept.rename v) ∧
      after.instructions.toList =
        kept.instructions.toList ++ (markedOnes marks value is).map (·.renamed after.rename) := by
  induction is generalizing value kept with
  | nil => exact ⟨fun _ _ => rfl, by simp [markedOnes]⟩
  | cons i rest ih =>
      intro after
      have orderedRest : ∀ (j : Nat) k, rest[j]? = some k →
          ∀ v ∈ k.op.operands, v < value + 1 + j := fun j k found v member => by
        have := ordered (j + 1) k (by simpa using found) v member
        omega
      rw [markedOnes]
      by_cases marked : marks.getD value false = true
      · have grown : after =
            keepFrom numInputs marks (value + 1) rest (kept.keep numInputs value i) :=
          keepFrom_marked marked
        obtain ⟨names, later⟩ := ih (value + 1) (kept.keep numInputs value i) orderedRest
        rw [← grown] at names later
        have here : i.renamed (kept.keep numInputs value i).rename = i.renamed after.rename :=
          Instruction.renamed_congr fun v member =>
            (names v (Nat.lt_succ_of_lt (ordered 0 i rfl v member))).symm
        rw [if_pos marked, List.map_cons]
        refine ⟨fun v less => ?_, ?_⟩
        · rw [names v (Nat.lt_succ_of_lt less), Kept.rename_keep _ _ _ (Nat.ne_of_lt less)]
        · rw [later, Kept.toList_keep, here, List.append_assoc, List.singleton_append]
      · have same : after = keepFrom numInputs marks (value + 1) rest kept := keepFrom_spare marked
        obtain ⟨names, later⟩ := ih (value + 1) kept orderedRest
        rw [← same] at names later
        rw [if_neg marked]
        exact ⟨fun v less => names v (Nat.lt_succ_of_lt less), later⟩

theorem filter_markedOnes {marks : Array Bool} (value : Nat) {is : List (Instruction A)}
    {keep : Instruction A → Bool}
    (marked : ∀ (j : Nat) i, is[j]? = some i → keep i = true → Marked marks (value + j)) :
    (markedOnes marks value is).filter keep = is.filter keep := by
  induction is generalizing value with
  | nil => rfl
  | cons i rest ih =>
      have others := ih (value + 1) fun j k found kept => by
        rw [show value + 1 + j = value + (j + 1) by omega]
        exact marked (j + 1) k (by simpa using found) kept
      rw [markedOnes]
      split
      · rw [List.filter_cons, List.filter_cons, others]
      · rename_i spare
        rw [others, List.filter_cons_of_neg fun kept => spare (marked 0 i rfl kept)]

theorem filter_renamed (f : Nat → Nat) (is : List (Instruction A)) :
    (is.map (·.renamed f)).filter (·.op.isCall) =
      (is.filter (·.op.isCall)).map (·.renamed f) := by
  rw [List.filter_map]
  refine congrArg (List.map _) (List.filter_congr fun i _ => ?_)
  exact Op.isCall_mapOperands f i.op

/-- A checked program whose result needs all of its calls can be lowered, and the program that is
left makes the same calls in the same order, under new names. -/
theorem exists_lower_calls (wellTyped : p.WellTyped)
    (needed : ∀ (k : Nat) i, p.instructions[k]? = some i → i.op.isCall = true →
      p.Needs p.output (p.inputs.size + k)) :
    ∃ q rename, p.lower = .ok q ∧ q.callsMade = p.callsMade.map (·.renamed rename) := by
  obtain ⟨table, forwarded, size, redirects⟩ :=
    p.forwarding_spec (fun _ _ => True) wellTyped (fun _ => trivial)
      fun _ _ _ _ _ _ _ _ _ => trivial
  have resolves := resolves_of_forwarding wellTyped forwarded size
  let instructions := p.instructions.toList.map (redirected table)
  let marks := p.needed instructions (table.getD p.output p.output)
  let kept := keepFrom p.inputs.size marks p.inputs.size instructions p.keptInputs
  obtain ⟨-, left⟩ := keepFrom_instructions p.inputs.size p.inputs.size marks instructions
    p.keptInputs fun k j found => ordered_redirected wellTyped redirects size found
  refine ⟨p.loweredBy table, kept.rename ∘ fun v => table.getD v v,
    p.lower_eq_ok wellTyped forwarded size, ?_⟩
  have marked : ∀ (k : Nat) j, instructions[k]? = some j → j.op.isCall = true →
      Marked marks (p.inputs.size + k) := by
    intro k j found call
    obtain ⟨i, there, rfl⟩ := getElem?_redirected.mp found
    have call : i.op.isCall = true := (Op.isCall_mapOperands _ i.op).symm.trans call
    have target := marked_of_needs wellTyped resolves redirects size (needed k i there call)
    rwa [resolves.own k i there fun input copies => by simp [copies.isCall] at call] at target
  calc (p.loweredBy table).callsMade
      = ((markedOnes marks p.inputs.size instructions).map (·.renamed kept.rename)).filter
          (·.op.isCall) := congrArg (List.filter _) left
    _ = (instructions.filter (·.op.isCall)).map (·.renamed kept.rename) := by
        rw [filter_renamed, filter_markedOnes _ marked]
    _ = (p.callsMade.map (redirected table)).map (·.renamed kept.rename) :=
        congrArg (List.map _) (filter_renamed (fun v => table.getD v v) p.instructions.toList)
    _ = p.callsMade.map (·.renamed (kept.rename ∘ fun v => table.getD v v)) := by
        rw [List.map_map]
        exact List.map_congr_left fun i _ => Instruction.renamed_renamed _ _ i

end Program

end Diffusion
