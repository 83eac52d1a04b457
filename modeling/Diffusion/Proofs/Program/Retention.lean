import Diffusion.Program.Execution
import Diffusion.Proofs.Action

/-!
Releasing values early cannot be observed.

`executeRetaining` is the interpreter without releases. Main statement: `execute_eq_retaining`, by
which every program does the same on both, whatever its operands are, so that facts about replays
are proved of the plain interpreter.
-/

namespace Diffusion.Program

variable {A : Arithmetic} {σ τ : Type} (p : Program A)

def retain (B : Backend A σ τ) : List (Instruction A) → Array τ → Action σ (Array τ)
  | [], values => pure values
  | i :: rest, values => do
    let result ← performDeclared B (values.map some) values.size i
    retain B rest (values.push result)

def resultOf (output : Nat) (values : Array τ) : Action σ τ :=
  match values[output]? with
  | some x => return x
  | none => Action.fail .outputMissing

/-- Replays the program on inputs of the declared shapes without releasing anything. -/
def executeRetaining (B : Backend A σ τ) (inputs : List τ) : Action σ τ := do
  Action.ofExcept (p.checkInputs B inputs)
  let values ← retain B p.instructions.toList inputs.toArray
  resultOf p.output values

/-- Instructions are carried out one after another, so a row of them may be cut anywhere. -/
theorem retain_append (B : Backend A σ τ) (first second : List (Instruction A))
    (values : Array τ) :
    retain B (first ++ second) values = retain B first values >>= retain B second := by
  induction first generalizing values with
  | nil => rw [List.nil_append, retain, pure_bind]
  | cons i rest ih =>
      rw [List.cons_append, retain, retain, bind_assoc]
      congr 1
      funext result
      exact ih (values.push result)

theorem resultOf_eq_pure {output : Nat} {values : Array τ} {x : τ}
    (found : values[output]? = some x) : (resultOf output values : Action σ τ) = pure x := by
  rw [resultOf, found]

/-! ### Last uses -/

/-- The index of the last instruction that reads a value, among instructions the first of which has
the given index. -/
def lastReader? (value : Nat) : Nat → List (Instruction A) → Option Nat
  | _, [] => none
  | index, i :: rest =>
    (lastReader? value (index + 1) rest).or (if value ∈ i.op.operands then some index else none)

theorem lastReader?_ge {value index k : Nat} {is : List (Instruction A)}
    (found : lastReader? value index is = some k) : index ≤ k := by
  induction is generalizing index with
  | nil => simp [lastReader?] at found
  | cons first rest ih =>
      rw [lastReader?] at found
      cases later : lastReader? value (index + 1) rest with
      | none =>
          simp only [later, Option.none_or] at found
          split at found
          · exact Nat.le_of_eq (Option.some.inj found)
          · contradiction
      | some l =>
          simp only [later, Option.some_or, Option.some.injEq] at found
          subst found
          exact Nat.le_of_succ_le (ih later)

theorem le_lastReader? (index : Nat) {value j : Nat} {is : List (Instruction A)} {i : Instruction A}
    (found : is[j]? = some i) (reads : value ∈ i.op.operands) :
    ∃ k, lastReader? value index is = some k ∧ index + j ≤ k := by
  induction is generalizing index j with
  | nil => simp at found
  | cons first rest ih =>
      rw [lastReader?]
      cases j with
      | zero =>
          have same : first = i := by simpa using found
          subst same
          cases later : lastReader? value (index + 1) rest with
          | none => exact ⟨index, by simp [reads], Nat.le_refl _⟩
          | some k => exact ⟨k, rfl, Nat.le_of_succ_le (lastReader?_ge later)⟩
      | succ j =>
          obtain ⟨k, later, bound⟩ := ih (index + 1) (j := j) (by simpa using found)
          exact ⟨k, by simp [later], by omega⟩

@[simp] theorem size_noteUse (index : Nat) (last : Array (Option Nat)) (value : Nat) :
    (noteUse index last value).size = last.size := by
  simp [noteUse]

theorem getElem?_foldl_noteUse (index : Nat) (operands : List Nat) (last : Array (Option Nat))
    (value : Nat) :
    (operands.foldl (noteUse index) last)[value]? =
      if value ∈ operands ∧ value < last.size then some (some index) else last[value]? := by
  induction operands generalizing last with
  | nil => simp
  | cons operand rest ih =>
      rw [List.foldl_cons, ih, size_noteUse]
      by_cases later : value ∈ rest ∧ value < last.size
      · simp [later]
      · rw [if_neg later, noteUse, Array.getElem?_setIfInBounds]
        by_cases same : operand = value
        · subst same
          by_cases inside : operand < last.size
          · simp [inside]
          · simp [inside]
        · have elsewhere : value ∈ operand :: rest ↔ value ∈ rest := by
            simp [List.mem_cons, Ne.symm same]
          simp only [if_neg same, elsewhere, if_neg later]

@[simp] theorem size_foldl_noteUse (index : Nat) (operands : List Nat)
    (last : Array (Option Nat)) : (operands.foldl (noteUse index) last).size = last.size := by
  induction operands generalizing last with
  | nil => rfl
  | cons operand rest ih => rw [List.foldl_cons, ih, size_noteUse]

theorem getElem?_noteUses (index : Nat) (is : List (Instruction A)) (last : Array (Option Nat))
    {value : Nat} (inside : value < last.size) :
    (noteUses index is last)[value]? = some ((lastReader? value index is).or last[value]) := by
  induction is generalizing index last with
  | nil => simp [noteUses, lastReader?, inside]
  | cons i rest ih =>
      rw [noteUses, ih _ _ (by simpa using inside), lastReader?]
      have here := getElem?_foldl_noteUse index i.op.operands last value
      rw [Array.getElem?_eq_getElem (by simpa using inside)] at here
      by_cases reads : value ∈ i.op.operands
      · simp only [reads, inside, and_self, if_true, Option.some.injEq] at here
        rw [here]
        cases lastReader? value (index + 1) rest <;> simp [reads]
      · simp only [reads, false_and, if_false, Array.getElem?_eq_getElem inside,
          Option.some.injEq] at here
        rw [here]
        cases lastReader? value (index + 1) rest <;> simp [reads]

@[simp] theorem size_noteUses (index : Nat) (is : List (Instruction A))
    (last : Array (Option Nat)) : (noteUses index is last).size = last.size := by
  induction is generalizing index last with
  | nil => rfl
  | cons i rest ih => rw [noteUses, ih, size_foldl_noteUse]

@[simp] theorem size_lastUses : p.lastUses.size = p.numValues := by
  simp [lastUses]

theorem getElem?_lastUses {value : Nat} (inside : value < p.numValues) :
    p.lastUses[value]? = some (lastReader? value 0 p.instructions.toList) := by
  rw [lastUses, getElem?_noteUses _ _ _ (by simpa using inside)]
  simp

/-! ### Releases -/

/-- Releases drop exactly the operands whose last use is here, but never the result. -/
theorem release_spec {last : Array (Option Nat)} (output index : Nat) {operands : List Nat}
    (values : Array (Option τ)) (noted : values.size ≤ last.size)
    (inside : ∀ v ∈ operands, v < values.size) :
    ∃ held, release last output index operands values = .ok held ∧ held.size = values.size ∧
      ∀ v, held[v]? =
        if v ∈ operands ∧ last[v]? = some (some index) ∧ v ≠ output then some none
        else values[v]? := by
  induction operands generalizing values with
  | nil => exact ⟨values, rfl, rfl, by simp⟩
  | cons operand rest ih =>
      have here : operand < values.size := inside operand (by simp)
      have entry : Halt.entry last operand = .ok last[operand] := by
        simp [Halt.entry, Array.getElem?_eq_getElem (Nat.lt_of_lt_of_le here noted)]
      have noteHere : last[operand]? = some last[operand] :=
        Array.getElem?_eq_getElem (Nat.lt_of_lt_of_le here noted)
      by_cases dies : last[operand] = some index ∧ operand ≠ output
      · obtain ⟨held, released, size, entries⟩ := ih (values.setIfInBounds operand none)
          (by simpa using noted)
          (by
            intro v member
            simpa using inside v (List.mem_cons_of_mem _ member))
        refine ⟨held, ?_, by simpa using size, ?_⟩
        · rw [release, entry]
          change (if last[operand] = some index ∧ operand ≠ output then _ else _) = _
          rw [if_pos dies, if_pos here, released]
        · intro v
          rw [entries v, Array.getElem?_setIfInBounds]
          by_cases same : operand = v
          · subst same
            simp [noteHere, dies.1, dies.2, here]
          · simp [List.mem_cons, Ne.symm same, same]
      · obtain ⟨held, released, size, entries⟩ := ih values noted
          (fun v member => inside v (List.mem_cons_of_mem _ member))
        refine ⟨held, ?_, size, ?_⟩
        · rw [release, entry]
          change (if last[operand] = some index ∧ operand ≠ output then _ else _) = _
          rw [if_neg dies, released]
        · intro v
          rw [entries v]
          by_cases same : operand = v
          · subst same
            have lives : ¬ (last[operand]? = some (some index) ∧ operand ≠ output) := by
              rw [noteHere, Option.some.injEq]
              exact dies
            rw [if_neg (fun all => lives all.2), if_neg (fun all => lives all.2)]
          · simp [List.mem_cons, Ne.symm same]

/-! ### The two interpreters side by side -/

/-- What `held` holds after releases, compared with all `values`: every value that the result or a
later instruction needs is still there. -/
structure Agrees (output : Nat) (later : List (Instruction A)) (held : Array (Option τ))
    (values : Array τ) : Prop where
  size_eq : held.size = values.size
  needed : ∀ v x, values[v]? = some x → (v = output ∨ ∃ i ∈ later, v ∈ i.op.operands) →
    held[v]? = some (some x)

theorem lookup_eq_ok {values : Array (Option τ)} {v : Nat} {x : τ} :
    lookup values v = .ok x ↔ values[v]? = some (some x) := by
  unfold lookup
  split
  · rename_i found
    simp [found]
  · rename_i missing
    constructor
    · intro impossible
      cases impossible
    · intro found
      exact absurd found (missing x)

theorem lookup_map_some (values : Array τ) (v : Nat) :
    lookup (values.map some) v =
      match values[v]? with
      | some x => .ok x
      | none => Halt.fail (.valueMissing v) := by
  rw [lookup, Array.getElem?_map]
  cases values[v]? <;> rfl

theorem Agrees.lookup_eq {output : Nat} {later : List (Instruction A)}
    {held : Array (Option τ)} {values : Array τ} (agrees : Agrees output later held values)
    {v : Nat} (read : ∃ i ∈ later, v ∈ i.op.operands) :
    lookup held v = lookup (values.map some) v := by
  rw [lookup_map_some]
  cases found : values[v]? with
  | some x => exact lookup_eq_ok.mpr (agrees.needed v x found (.inr read))
  | none =>
      have outside : held.size ≤ v := by
        rw [agrees.size_eq]
        exact Array.getElem?_eq_none_iff.mp found
      rw [lookup, Array.getElem?_eq_none outside]

/-! ### One operation

With its operands at hand an operation is a call of the backend. -/

section Perform

variable {B : Backend A σ τ} {values : Array (Option τ)} {x y : τ}

theorem perform_scale {input : Nat} {factor : A.Wide} (found : lookup values input = .ok x) :
    perform B values (.scale input factor) = B.scale x (A.narrow factor) := by
  simp only [perform, found, Action.ofExcept_ok, pure_bind]

theorem perform_add {lhs rhs : Nat} (left : lookup values lhs = .ok x)
    (right : lookup values rhs = .ok y) : perform B values (.add lhs rhs) = B.add x y := by
  simp only [perform, left, right, Action.ofExcept_ok, pure_bind]

theorem perform_sub {lhs rhs : Nat} (left : lookup values lhs = .ok x)
    (right : lookup values rhs = .ok y) : perform B values (.sub lhs rhs) = B.sub x y := by
  simp only [perform, left, right, Action.ofExcept_ok, pure_bind]

theorem perform_concat {lhs rhs : Nat} (left : lookup values lhs = .ok x)
    (right : lookup values rhs = .ok y) : perform B values (.concat lhs rhs) = B.concat x y := by
  simp only [perform, left, right, Action.ofExcept_ok, pure_bind]

theorem perform_slice {input : Nat} {half : Half} (found : lookup values input = .ok x) :
    perform B values (.slice input half) = B.split x >>= fun halves => pure (half.pick halves) := by
  simp only [perform, found, Action.ofExcept_ok, pure_bind]

theorem perform_noise {like : Nat} {seed : UInt64} (found : lookup values like = .ok x) :
    perform B values (.noise like seed) = B.noise x seed := by
  simp only [perform, found, Action.ofExcept_ok, pure_bind]

theorem perform_unet {sample conditioning : Nat} {timestep : A.Elem}
    (found : lookup values sample = .ok x) (condition : lookup values conditioning = .ok y) :
    perform B values (.unet sample conditioning timestep) = B.predict x timestep y := by
  simp only [perform, found, condition, Action.ofExcept_ok, pure_bind]

end Perform

theorem perform_congr {B : Backend A σ τ} {held values : Array (Option τ)} {op : Op A}
    (same : ∀ v ∈ op.operands, lookup held v = lookup values v) :
    perform B held op = perform B values op := by
  cases op <;>
    simp only [Op.operands, List.mem_cons, List.not_mem_nil, or_false, forall_eq_or_imp,
      forall_eq] at same <;>
    simp only [perform, same]

theorem lookup_of_perform {B : Backend A σ τ} {values : Array (Option τ)} {op : Op A}
    {s after : σ} {x : τ} (performed : (perform B values op).runOn s = (.ok x, after)) :
    ∀ v ∈ op.operands, ∃ y, lookup values v = .ok y := by
  cases op with
  | scale input factor =>
      obtain ⟨_, _, read, _⟩ := Action.of_bind_ok performed
      simpa [Op.operands] using ⟨_, congrArg Prod.fst read⟩
  | noise like seed =>
      obtain ⟨_, _, read, _⟩ := Action.of_bind_ok performed
      simpa [Op.operands] using ⟨_, congrArg Prod.fst read⟩
  | slice input half =>
      obtain ⟨_, _, read, _⟩ := Action.of_bind_ok performed
      simpa [Op.operands] using ⟨_, congrArg Prod.fst read⟩
  | add lhs rhs | sub lhs rhs | concat lhs rhs | unet lhs rhs _ =>
      obtain ⟨_, _, left, continued⟩ := Action.of_bind_ok performed
      obtain ⟨_, _, right, _⟩ := Action.of_bind_ok continued
      simpa [Op.operands] using ⟨⟨_, congrArg Prod.fst left⟩, ⟨_, congrArg Prod.fst right⟩⟩

/-- With the result of an instruction appended and what is not read after it released, the values
agree for the instructions that are left. -/
theorem Agrees.released {output index : Nat} {last : Array (Option Nat)} {i : Instruction A}
    {rest : List (Instruction A)} {held kept : Array (Option τ)} {values : Array τ} {result : τ}
    (agrees : Agrees output (i :: rest) held values)
    (later : ∀ i' ∈ rest, ∀ v ∈ i'.op.operands, last[v]? ≠ some (some index))
    (size : kept.size = (held.push (some result)).size)
    (entries : ∀ v, kept[v]? =
      if v ∈ i.op.operands ∧ last[v]? = some (some index) ∧ v ≠ output then some none
      else (held.push (some result))[v]?) :
    Agrees output rest kept (values.push result) where
  size_eq := by rw [size, Array.size_push, Array.size_push, agrees.size_eq]
  needed v x found reason := by
    have lives : ¬ (v ∈ i.op.operands ∧ last[v]? = some (some index) ∧ v ≠ output) := by
      rintro ⟨-, note, different⟩
      rcases reason with isOutput | ⟨i', member, reads⟩
      · exact different isOutput
      · exact later i' member v reads note
    rw [entries v, if_neg lives, Array.getElem?_push]
    rw [Array.getElem?_push] at found
    rw [agrees.size_eq]
    split
    · rename_i newest
      rw [if_pos newest, Option.some.injEq] at found
      rw [found]
    · rename_i older
      rw [if_neg older] at found
      refine agrees.needed v x found (reason.imp_right ?_)
      rintro ⟨i', member, reads⟩
      exact ⟨i', List.mem_cons_of_mem _ member, reads⟩

theorem replay_cons (B : Backend A σ τ) (last : Array (Option Nat)) (index : Nat)
    (i : Instruction A) (rest : List (Instruction A)) (values : Array (Option τ)) :
    p.replay B last index (i :: rest) values =
      performDeclared B values (p.inputs.size + index) i >>= fun result =>
        Action.ofExcept (release last p.output index i.op.operands (values.push (some result))) >>=
          fun held => p.replay B last (index + 1) rest held := rfl

/-- Replaying with releases keeps in step with retaining. `last` must note, for every value, an
instruction at or after each of its readers. -/
theorem replay_eq_retain {B : Backend A σ τ} {last : Array (Option Nat)} {index : Nat}
    {is : List (Instruction A)} {held : Array (Option τ)} {values : Array τ}
    (counted : values.size = p.inputs.size + index)
    (room : values.size + is.length ≤ last.size)
    (noted : ∀ j i v, is[j]? = some i → v ∈ i.op.operands → v < last.size →
      ∃ k, last[v]? = some (some k) ∧ index + j ≤ k)
    (agrees : Agrees p.output is held values) (s : σ) :
    match (retain B is values).runOn s with
    | (.ok all, after) => ∃ rest, (p.replay B last index is held).runOn s = (.ok rest, after) ∧
        Agrees p.output ([] : List (Instruction A)) rest all
    | (.error h, after) => (p.replay B last index is held).runOn s = (.error h, after) := by
  induction is generalizing index held values s with
  | nil => exact ⟨held, rfl, agrees⟩
  | cons i rest ih =>
      have performs : performDeclared B held (p.inputs.size + index) i =
          performDeclared B (values.map some) values.size i := by
        rw [performDeclared, performDeclared, counted, perform_congr fun v member =>
          agrees.lookup_eq ⟨i, by simp, member⟩]
      rw [retain, replay_cons, performs]
      rcases first : (performDeclared B (values.map some) values.size i).runOn s with
        ⟨h | result, between⟩
      · rw [Action.runOn_bind_error first, Action.runOn_bind_error first]
      · rw [Action.runOn_bind_ok first, Action.runOn_bind_ok first]
        obtain ⟨_, _, performed, _⟩ := Action.of_bind_ok first
        have inside : ∀ v ∈ i.op.operands, v < (held.push (some result)).size := by
          intro v member
          obtain ⟨y, found⟩ := lookup_of_perform performed v member
          have bound := (Array.getElem?_eq_some_iff.mp (lookup_eq_ok.mp found)).1
          rw [Array.size_push, agrees.size_eq]
          exact Nat.lt_succ_of_lt (by simpa using bound)
        have size : (held.push (some result)).size ≤ last.size := by
          rw [Array.size_push, agrees.size_eq]
          rw [List.length_cons] at room
          omega
        obtain ⟨kept, released, keptSize, entries⟩ :=
          release_spec p.output index _ size inside
        rw [released, Action.ofExcept_ok, pure_bind]
        have later : ∀ i' ∈ rest, ∀ v ∈ i'.op.operands, last[v]? ≠ some (some index) := by
          -- a later reader would be noted after this instruction
          intro i' member v reads note
          obtain ⟨j, position⟩ := List.mem_iff_getElem?.mp member
          have bound := (Array.getElem?_eq_some_iff.mp note).1
          obtain ⟨k, note', le⟩ := noted (j + 1) i' v (by simpa using position) reads bound
          rw [note, Option.some.injEq, Option.some.injEq] at note'
          omega
        refine ih (by rw [Array.size_push]; omega)
          (by rw [Array.size_push]; rw [List.length_cons] at room; omega)
          (fun j i' v found member bound => ?_) (agrees.released later keptSize entries) between
        obtain ⟨k, note, le⟩ := noted (j + 1) i' v (by simpa using found) member bound
        exact ⟨k, note, by omega⟩

theorem forM_zip_eq_ok_iff {B : Backend A σ τ} {inputs : List τ} {declared : List ProgramInput}
    (same : inputs.length = declared.length) :
    ((inputs.zip declared).forM fun (x, declared) =>
        if B.shape x = declared.shape then (.ok () : Except Halt Unit)
        else Halt.fail (.inputShape declared.name declared.shape (B.shape x))) = .ok () ↔
      inputs.map B.shape = declared.map (·.shape) := by
  induction inputs generalizing declared with
  | nil =>
      cases declared with
      | nil => simp [pure, Except.pure]
      | cons _ _ => simp at same
  | cons x rest ih =>
      cases declared with
      | nil => simp at same
      | cons first others =>
          rw [List.zip_cons_cons, List.forM, Halt.bind_eq_ok_iff, List.map_cons,
            List.map_cons, List.cons.injEq, ← ih (by simpa using same)]
          constructor
          · rintro ⟨_, here, later⟩
            refine ⟨?_, later⟩
            by_cases shape : B.shape x = first.shape
            · exact shape
            · simp [shape, Halt.fail] at here
          · rintro ⟨shape, later⟩
            exact ⟨(), by simp [shape], later⟩

theorem checkInputs_eq_ok_iff {B : Backend A σ τ} {inputs : List τ} :
    p.checkInputs B inputs = .ok () ↔
      inputs.map B.shape = p.inputs.toList.map (·.shape) := by
  unfold checkInputs
  split
  · rename_i different
    constructor
    · intro impossible
      cases impossible
    · intro same
      exact absurd (by simpa using congrArg List.length same) different
  · rename_i same
    exact forM_zip_eq_ok_iff (by simpa using same)

/-- Every program does the same with and without releases: the same operations in the same order,
with the same answer, be it a value or an error. -/
theorem execute_eq_retaining (B : Backend A σ τ) (inputs : List τ) :
    p.execute B inputs = p.executeRetaining B inputs := by
  apply Action.ext
  intro s
  rw [execute, executeRetaining]
  cases checked : p.checkInputs B inputs with
  | error h => rfl
  | ok =>
      have shapes := p.checkInputs_eq_ok_iff.mp checked
      have count : inputs.length = p.inputs.size := by simpa using congrArg List.length shapes
      simp only [Action.ofExcept_ok, pure_bind]
      have counted : inputs.toArray.size = p.inputs.size + 0 := by simpa using count
      have room : inputs.toArray.size + p.instructions.toList.length ≤ p.lastUses.size := by
        simp [numValues, count]
      have agrees : Agrees p.output p.instructions.toList (inputs.map some).toArray
          inputs.toArray :=
        ⟨by simp, fun v x found _ => by simpa using found⟩
      have inStep := p.replay_eq_retain (B := B) counted room
        (fun j i v found member inside => by
          rw [p.getElem?_lastUses (by simpa using inside)]
          obtain ⟨k, note, le⟩ := le_lastReader? 0 found member
          exact ⟨k, by rw [note], le⟩)
        agrees s
      rcases ran : (retain B p.instructions.toList inputs.toArray).runOn s with ⟨h | all, after⟩
      · rw [ran] at inStep
        rw [Action.runOn_bind_error ran, Action.runOn_bind_error inStep]
      · rw [ran] at inStep
        obtain ⟨rest, replayed, agrees⟩ := inStep
        rw [Action.runOn_bind_ok ran, Action.runOn_bind_ok replayed]
        cases found : all[p.output]? with
        | some x => simp only [resultOf_eq_pure found, agrees.needed p.output x found (.inl rfl)]
        | none =>
            have outside : rest.size ≤ p.output := by
              rw [agrees.size_eq]
              exact Array.getElem?_eq_none_iff.mp found
            simp only [resultOf, found, Array.getElem?_eq_none outside]

/-- A replay that has a result has accepted the inputs and comes to values with the result among
them. -/
theorem of_execute {B : Backend A σ τ} {inputs : List τ} {s after : σ} {x : τ}
    (executed : (p.execute B inputs).runOn s = (.ok x, after)) :
    p.checkInputs B inputs = .ok () ∧ ∃ values,
      (retain B p.instructions.toList inputs.toArray).runOn s = (.ok values, after) ∧
        values[p.output]? = some x := by
  rw [execute_eq_retaining, executeRetaining] at executed
  obtain ⟨_, between, checked, continued⟩ := Action.of_bind_ok executed
  obtain ⟨accepted, rfl⟩ := Prod.mk.inj checked
  obtain ⟨values, between, ran, picked⟩ := Action.of_bind_ok continued
  unfold resultOf at picked
  split at picked
  · rename_i found
    cases picked
    exact ⟨accepted, values, ran, found⟩
  · cases picked

end Diffusion.Program
