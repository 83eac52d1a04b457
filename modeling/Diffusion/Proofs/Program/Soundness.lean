import Diffusion.Proofs.Arithmetic.Whole
import Diffusion.Proofs.Backend.Eager
import Diffusion.Proofs.Program.Retention
import Diffusion.Proofs.Program.Typing

/-!
Type soundness of programs on tensors.

Validation checks shapes, and a checked program computes tensors of the declared shapes. It leaves
two things open, which `Instruction.Feasible` names: an empty batch cannot be cut into halves, and a
stack must have strides. Main statement: `execute_of_valid`.
-/

namespace Diffusion

/-- What shapes alone do not promise of an instruction: that a half of a batch has rows, and that a
stack is small enough for strides. -/
def Instruction.Feasible {A : Arithmetic} (i : Instruction A) : Prop :=
  match i.op with
  | .slice .. => i.shape.head? ≠ some 0
  | .concat .. => i.shape.span < spanLimit
  | _ => True

namespace Program

variable {A : Arithmetic} {σ τ ν : Type} (p : Program A)

instance (i : Instruction A) : Decidable i.Feasible := by
  unfold Instruction.Feasible
  split <;> infer_instance

/-- Every value held has the shape that the program declares for it. -/
def Typed (B : Backend A σ τ) (values : Array τ) : Prop :=
  ∀ v x, values[v]? = some x → p.valueShape? v = some (B.shape x)

/-- The two ways in which a checked program can fail. -/
inductive Infeasible : Halt → Prop
  | unsplittable (s : Shape) : Infeasible (.error (.unsplittable s))
  | stackTooLarge : Infeasible (.error .stackTooLarge)

theorem Typed.lookup {p : Program A} {B : Backend A σ τ} {values : Array τ}
    (typed : p.Typed B values) {v : Nat} {s : Shape} (declared : p.valueShape? v = some s)
    (inside : v < values.size) :
    ∃ x, lookup (values.map some) v = .ok x ∧ B.shape x = s := by
  have found := Array.getElem?_eq_getElem inside
  refine ⟨values[v], ?_, ?_⟩
  · rw [lookup_map_some, found]
  · have shape := typed v values[v] found
    rw [declared, Option.some.injEq] at shape
    exact shape.symm

/-- An operation on typed values has a result of the implied shape if it is feasible, and otherwise
fails without any effect. -/
theorem perform_eager {network : Network A ν} (obedient : network.Obedient)
    {values : Array (Tensor A.Elem)} (typed : p.Typed (Backend.eager (some network)) values)
    {i : Instruction A} (implies : p.Implies i.op i.shape)
    (ordered : ∀ v ∈ i.op.operands, v < values.size) (state : ν) :
    (i.Feasible ∧ ∃ x after,
      (perform (Backend.eager (some network)) (values.map some) i.op).runOn state =
        (.ok x, after) ∧ x.shape = i.shape) ∨
    (¬ i.Feasible ∧ ∃ h,
      (perform (Backend.eager (some network)) (values.map some) i.op).runOn state =
        (.error h, state) ∧ Infeasible h) := by
  obtain ⟨op, shape⟩ := i
  cases implies with
  | @scale input factor _ operand =>
      obtain ⟨x, found, same⟩ := typed.lookup operand (ordered input (by simp [Op.operands]))
      refine .inl ⟨trivial, x.scale (A.narrow factor), state, ?_, same⟩
      rw [perform_scale found]
      rfl
  | @noise like seed _ operand =>
      obtain ⟨x, found, same⟩ := typed.lookup operand (ordered like (by simp [Op.operands]))
      refine .inl ⟨trivial, Tensor.noise A x.shape seed, state, ?_, same⟩
      rw [perform_noise found]
      rfl
  | @add lhs rhs _ left right =>
      obtain ⟨x, foundLeft, sameLeft⟩ := typed.lookup left (ordered lhs (by simp [Op.operands]))
      obtain ⟨y, foundRight, sameRight⟩ := typed.lookup right (ordered rhs (by simp [Op.operands]))
      have alike : x.shape = y.shape := sameLeft.trans sameRight.symm
      refine .inl ⟨trivial, x.zipWith (· + ·) y alike, state, ?_, sameLeft⟩
      rw [perform_add foundLeft foundRight, Backend.runOn_add alike]
  | @sub lhs rhs _ left right =>
      obtain ⟨x, foundLeft, sameLeft⟩ := typed.lookup left (ordered lhs (by simp [Op.operands]))
      obtain ⟨y, foundRight, sameRight⟩ := typed.lookup right (ordered rhs (by simp [Op.operands]))
      have alike : x.shape = y.shape := sameLeft.trans sameRight.symm
      refine .inl ⟨trivial, x.zipWith (· - ·) y alike, state, ?_, sameLeft⟩
      rw [perform_sub foundLeft foundRight, Backend.runOn_sub alike]
  | @concat lhs rhs l r sum rest left right stacked fits =>
      obtain ⟨x, foundLeft, sameLeft⟩ := typed.lookup left (ordered lhs (by simp [Op.operands]))
      obtain ⟨y, foundRight, sameRight⟩ := typed.lookup right (ordered rhs (by simp [Op.operands]))
      rw [← sameLeft, ← sameRight] at stacked
      rw [perform_concat foundLeft foundRight, Backend.runOn_concat stacked]
      by_cases small : Shape.span (sum :: rest) < spanLimit
      · rw [if_pos small]
        exact .inl ⟨small, x.stack y stacked, state, rfl, rfl⟩
      · rw [if_neg small]
        exact .inr ⟨small, _, rfl, .stackTooLarge⟩
  | @slice input half n rest operand even =>
      obtain ⟨x, found, same⟩ := typed.lookup operand (ordered input (by simp [Op.operands]))
      change x.shape = n :: rest at same
      rw [perform_slice found]
      by_cases empty : n = 0
      · have uncut : Shape.half? x.shape = none := by simp [same, Shape.half?, empty]
        refine .inr ⟨by simp [Instruction.Feasible, empty], _, ?_, .unsplittable x.shape⟩
        rw [Action.runOn_bind_error (Backend.runOn_split_unsplittable uncut state)]
      · have cut : Shape.half? x.shape = some (n / 2 :: rest) := by
          simp [same, Shape.half?, empty, even]
        have positive : n / 2 ≠ 0 := by omega
        refine .inl ⟨by simpa [Instruction.Feasible] using positive,
          half.pick (x.firstHalf cut, x.secondHalf cut), state, ?_, ?_⟩
        · rw [Action.runOn_bind_ok (Backend.runOn_split cut state), Action.runOn_pure]
        · cases half <;> rfl
  | @unet sample conditioning timestep s c operand condition rows =>
      obtain ⟨x, found, same⟩ := typed.lookup operand (ordered sample (by simp [Op.operands]))
      obtain ⟨y, foundCondition, sameCondition⟩ :=
        typed.lookup condition (ordered conditioning (by simp [Op.operands]))
      have equalRows : x.shape.head? = y.shape.head? := by
        rw [← same, ← sameCondition] at rows
        exact rows
      obtain ⟨noise, after, called, shape⟩ :=
        Backend.callNetwork_obedient obedient timestep equalRows state
      refine .inl ⟨trivial, noise, after, ?_, shape.trans same⟩
      rw [perform_unet found foundCondition]
      exact called

theorem Typed.push {p : Program A} {B : Backend A σ τ} {values : Array τ}
    (typed : p.Typed B values) {x : τ} (declared : p.valueShape? values.size = some (B.shape x)) :
    p.Typed B (values.push x) := by
  intro v y found
  rw [Array.getElem?_push] at found
  split at found
  · rename_i newest
    cases found
    rw [newest]
    exact declared
  · exact typed v y found

/-- Instructions from an index on compute typed values if all are feasible; otherwise they end in
an error of an infeasible one. -/
theorem retain_eager {network : Network A ν} (obedient : network.Obedient) (wellTyped : p.WellTyped)
    {is : List (Instruction A)} (index : Nat)
    (suffix : ∀ j, is[j]? = p.instructions[index + j]?) (values : Array (Tensor A.Elem))
    (counted : values.size = p.inputs.size + index)
    (typed : p.Typed (Backend.eager (some network)) values) (state : ν) :
    ((∀ i ∈ is, i.Feasible) ∧ ∃ all after,
      (retain (Backend.eager (some network)) is values).runOn state = (.ok all, after) ∧
        all.size = values.size + is.length ∧ p.Typed (Backend.eager (some network)) all) ∨
    ((∃ i ∈ is, ¬ i.Feasible) ∧ ∃ h after,
      (retain (Backend.eager (some network)) is values).runOn state = (.error h, after) ∧
        Infeasible h) := by
  induction is generalizing index values state with
  | nil => exact .inl ⟨by simp, values, state, rfl, rfl, typed⟩
  | cons i rest ih =>
      have found : p.instructions[index]? = some i := by simpa using (suffix 0).symm
      have performs := p.perform_eager obedient typed (wellTyped.declared index i found)
        (fun v member => counted ▸ wellTyped.ordered index i found v member) state
      rw [retain]
      rcases performs with
        ⟨feasible, x, between, performed, shape⟩ | ⟨infeasible, h, performed, kind⟩
      · have first : (performDeclared (Backend.eager (some network)) (values.map some)
            values.size i).runOn state = (.ok x, between) := by
          rw [performDeclared, Action.runOn_bind_ok performed, Backend.shape_eager, if_pos shape,
            Action.runOn_pure]
        have declared : p.valueShape? values.size =
            some ((Backend.eager (some network)).shape x) := by
          rw [counted, p.valueShape?_instruction found, Backend.shape_eager, shape]
        have tail := ih (index + 1)
          (fun j => by simpa [Nat.add_assoc, Nat.add_comm 1] using suffix (j + 1)) (values.push x)
          (by rw [Array.size_push]; omega) (typed.push declared) between
        rw [Action.runOn_bind_ok first]
        rcases tail with ⟨feasibles, all, after, ran, size, typedAll⟩ | ⟨⟨j, later, fails⟩, tail⟩
        · refine .inl ⟨?_, all, after, ran, ?_, typedAll⟩
          · simpa [List.forall_mem_cons] using ⟨feasible, feasibles⟩
          · rw [size, Array.size_push, List.length_cons]
            omega
        · exact .inr ⟨⟨j, List.mem_cons_of_mem _ later, fails⟩, tail⟩
      · have first : (performDeclared (Backend.eager (some network)) (values.map some)
            values.size i).runOn state = (.error h, state) := by
          rw [performDeclared, Action.runOn_bind_error performed]
        exact .inr ⟨⟨i, by simp, infeasible⟩, h, state, by rw [Action.runOn_bind_error first], kind⟩

/-- A checked program on inputs of the declared shapes, with a network that obeys, has a result of
the declared shape exactly if all its instructions are feasible, and can fail in no other way. -/
theorem execute_of_valid {network : Network A ν} (obedient : network.Obedient) (valid : p.Valid)
    {inputs : List (Tensor A.Elem)}
    (shapes : inputs.map (·.shape) = p.inputs.toList.map (·.shape)) (state : ν) :
      let answer := ((p.execute (Backend.eager (some network)) inputs).runOn state).1
    ((∃ x, answer = .ok x ∧ p.outputShape? = some x.shape) ↔ ∀ i ∈ p.instructions, i.Feasible) ∧
      ∀ h, answer = .error h → Infeasible h := by
  have wellTyped := p.valid_iff_wellTyped.mp valid
  have checked := (p.checkInputs_eq_ok_iff (B := Backend.eager (some network))).mpr shapes
  have count : inputs.length = p.inputs.size := by simpa using congrArg List.length shapes
  have typedInputs : p.Typed (Backend.eager (some network)) inputs.toArray := by
    intro v x found
    rw [List.getElem?_toArray] at found
    have inside : v < p.inputs.size := count ▸ (List.getElem?_eq_some_iff.mp found).1
    have declared := congrArg (·[v]?) shapes
    simp only [List.getElem?_map, found, Option.map_some, Array.getElem?_toList,
      Array.getElem?_eq_getElem inside, Option.some.injEq] at declared
    rw [p.valueShape?_input inside, ← declared]
    rfl
  have outcome := p.retain_eager obedient wellTyped 0
    (fun j => by rw [Array.getElem?_toList, Nat.zero_add]) inputs.toArray (by simpa using count)
    typedInputs state
  intro answer
  have unfolded : answer = ((p.executeRetaining (Backend.eager (some network)) inputs).runOn
      state).1 := by
    rw [← p.execute_eq_retaining]
  rw [executeRetaining, checked, Action.ofExcept_ok, pure_bind] at unfolded
  rcases outcome with
    ⟨feasible, all, after, ran, size, typed⟩ | ⟨⟨i, member, fails⟩, h, after, ran, kind⟩
  · have inside : p.output < all.size := by
      rw [size, List.size_toArray, count, Array.length_toList]
      exact wellTyped.output
    have found := Array.getElem?_eq_getElem inside
    rw [Action.runOn_bind_ok ran, resultOf_eq_pure found] at unfolded
    have shape := typed p.output all[p.output] found
    refine ⟨⟨fun _ i member => feasible i (Array.mem_toList_iff.mpr member),
      fun _ => ⟨all[p.output], unfolded, shape⟩⟩, ?_⟩
    intro h failed
    rw [unfolded] at failed
    cases failed
  · rw [Action.runOn_bind_error ran] at unfolded
    refine ⟨⟨?_, fun feasible => absurd (feasible i (Array.mem_toList_iff.mp member)) fails⟩, ?_⟩
    · rintro ⟨x, succeeded, _⟩
      rw [unfolded] at succeeded
      cases succeeded
    · intro other failed
      rw [unfolded] at failed
      cases failed
      exact kind

theorem obedient_echo : (Network.ofFunction (A := A) fun sample _ _ => .ok sample).Obedient :=
  fun sample _ _ state => ⟨sample, state, rfl, rfl⟩

/-- A batch laid after itself, of which the second half is given to the network. -/
def doubled : Program whole where
  inputs := #[⟨"sample", [2]⟩]
  instructions := #[⟨.concat 0 0, [4]⟩, ⟨.slice 1 .second, [2]⟩, ⟨.unet 2 0 (7 : Int), [2]⟩]
  output := 3

theorem execute_of_valid_doubled :
    ∃ x, ((doubled.execute (.eager (some (Network.ofFunction fun sample _ _ => .ok sample)))
      [.fill [2] 5]).runOn ()).1 = .ok x ∧ doubled.outputShape? = some x.shape :=
  (doubled.execute_of_valid obedient_echo rfl rfl ()).1.mpr (by decide)

/-- Both halves of an empty batch are taken to be empty, so cutting one is checked as fine. -/
def halvedNothing : Program whole where
  inputs := #[⟨"x", [0]⟩]
  instructions := #[⟨.slice 0 .first, [0]⟩]
  output := 1

theorem execute_halvedNothing :
    halvedNothing.Valid ∧
      ((halvedNothing.execute (.eager (some (Network.ofFunction fun sample _ _ => .ok sample)))
        [.fill [0] 0]).runOn ()).1 = .error (.error (.unsplittable [0])) :=
  ⟨rfl, rfl⟩

end Program

end Diffusion
