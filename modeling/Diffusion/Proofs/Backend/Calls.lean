import Diffusion.Proofs.Program.Counting
import Diffusion.Proofs.Trace.Shadow

/-!
Calls of the operations of a backend as data, and what shapes alone say of them.

Recording a call and computing it check shapes in two places, and both come to one verdict. Main
statements: `runOn_make_tracer` and `answer_make_eager`.
-/

namespace Diffusion

theorem Shape.stack?_ne_nil (s t : Shape) : Shape.stack? s t ≠ some [] := by
  unfold Shape.stack?
  split
  · split <;> simp
  · simp

namespace Backend

/-- A call of an operation, on handles of any kind. -/
inductive Call (A : Arithmetic) (η : Type) where
  | scale (x : η) (factor : A.Elem)
  | add (x y : η)
  | sub (x y : η)
  | concat (x y : η)
  | split (x : η)
  | noise (x : η) (seed : UInt64)
  | predict (sample : η) (timestep : A.Elem) (conditioning : η)

namespace Call

variable {A : Arithmetic} {σ τ η ξ ζ ν : Type}

def operands : Call A η → List η
  | scale x _ | split x | noise x _ => [x]
  | add x y | sub x y | concat x y | predict x _ y => [x, y]

def map (f : η → ξ) : Call A η → Call A ξ
  | scale x factor => scale (f x) factor
  | add x y => add (f x) (f y)
  | sub x y => sub (f x) (f y)
  | concat x y => concat (f x) (f y)
  | split x => split (f x)
  | noise x seed => noise (f x) seed
  | predict sample timestep conditioning => predict (f sample) timestep (f conditioning)

/-- Makes a call. Only a split is answered with two handles. -/
def make (B : Backend A σ τ) : Call A τ → Action σ (List τ)
  | scale x factor => do return [← B.scale x factor]
  | add x y => do return [← B.add x y]
  | sub x y => do return [← B.sub x y]
  | concat x y => do return [← B.concat x y]
  | split x => do
    let (first, second) ← B.split x
    return [first, second]
  | noise x seed => do return [← B.noise x seed]
  | predict sample timestep conditioning => do
    return [← B.predict sample timestep conditioning]

/-- What shapes say of a call on operands of these shapes: the shapes of what it is answered with,
or why it is refused. -/
def verdict : Call A Shape → Except Halt (List Shape)
  | scale s _ | noise s _ => .ok [s]
  | add s t => if s = t then .ok [s] else Halt.fail (.shapeMismatch "add" s t)
  | sub s t => if s = t then .ok [s] else Halt.fail (.shapeMismatch "sub" s t)
  | concat s t =>
    match Shape.stack? s t with
    | some (sum :: rest) => (Halt.checked sum).map fun sum => [sum :: rest]
    | _ => Halt.fail (.shapeMismatch "concat" s t)
  | split s =>
    match Shape.half? s with
    | some half => .ok [half, half]
    | none => Halt.fail (.unsplittable s)
  | predict s _ t =>
    if s.head? = t.head? then .ok [s] else Halt.fail (.shapeMismatch "unet" s t)

/-- The operations of a program that stand for a call on values of these ids. -/
def ops : Call A Nat → List (Op A)
  | scale x factor => [.scale x (A.widen factor)]
  | add x y => [.add x y]
  | sub x y => [.sub x y]
  | concat x y => [.concat x y]
  | split x => [.slice x .first, .slice x .second]
  | noise x seed => [.noise x seed]
  | predict sample timestep conditioning => [.unet sample conditioning timestep]

@[simp] theorem map_map (f : η → ξ) (g : ξ → ζ) (call : Call A η) :
    (call.map f).map g = call.map (g ∘ f) := by
  cases call <;> rfl

theorem operands_map (f : η → ξ) (call : Call A η) :
    (call.map f).operands = call.operands.map f := by
  cases call <;> rfl

/-- The operations that stand for a call read all of its operands. -/
theorem operands_of_mem_ops {call : Call A Nat} {op : Op A} (member : op ∈ call.ops) :
    op.operands = call.operands := by
  cases call with
  | split x => rcases List.mem_pair.mp member with rfl | rfl <;> rfl
  | scale | add | sub | concat | noise | predict =>
      rw [List.mem_singleton.mp member]
      rfl

end Call

end Backend

namespace Recording

variable {A : Arithmetic} {r : Recording A}

/-- The next values of a recording, one for each shape. -/
def nextValues (r : Recording A) (shapes : List Shape) : List Value :=
  shapes.mapIdx fun k s => ⟨r.numValues + k, s⟩

@[simp] theorem shapes_nextValues (r : Recording A) (shapes : List Shape) :
    (r.nextValues shapes).map (·.shape) = shapes := by
  apply List.ext_getElem <;> simp [nextValues]

@[simp] theorem numValues_extended (r : Recording A) (new : List (Instruction A)) :
    (r.extended new).numValues = r.numValues + new.length := by
  simp [numValues, extended, Nat.add_assoc]

theorem runOn_record_bind {β : Type} (r : Recording A) (op : Op A) (s : Shape)
    (f : Value → Action (Recording A) β) :
    (record op s >>= f).runOn r = (f ⟨r.numValues, s⟩).runOn (r.extended [⟨op, s⟩]) :=
  Action.runOn_bind_ok (runOn_record r op s)

end Recording

namespace Backend.Call

variable {A : Arithmetic} {ν : Type}

/-- The tracer follows the verdict on the shapes of its values: it leaves the recording alone, or
appends the operations of the call, which define the next values. -/
theorem runOn_make_tracer (call : Call A Value) (r : Recording A) :
    (call.make (tracer A)).runOn r =
      match (call.map (·.shape)).verdict with
      | .error h => (.error h, r)
      | .ok shapes => (.ok (r.nextValues shapes),
          r.extended (List.zipWith Instruction.mk (call.map (·.id)).ops shapes)) := by
  cases call with
  | scale x factor => exact Recording.runOn_record_bind ..
  | noise x seed => exact Recording.runOn_record_bind ..
  | add x y =>
      simp only [make, tracer, recordAlike, map, verdict]
      split
      · exact Recording.runOn_record_bind ..
      · rfl
  | sub x y =>
      simp only [make, tracer, recordAlike, map, verdict]
      split
      · exact Recording.runOn_record_bind ..
      · rfl
  | concat x y =>
      simp only [make, tracer, recordConcat, map, verdict]
      rcases Shape.stack? x.shape y.shape with _ | _ | ⟨sum, rest⟩
      · rfl
      · rfl
      · dsimp only
        cases Halt.checked sum with
        | error h => rfl
        | ok sum => exact Recording.runOn_record_bind ..
  | split x =>
      simp only [make, tracer, recordSplit, map, verdict]
      cases Shape.half? x.shape with
      | none => rfl
      | some half =>
          simp only [bind_assoc, Recording.runOn_record_bind, pure_bind,
            Recording.numValues_extended]
          rw [← Recording.extended_append]
          rfl
  | predict sample timestep conditioning =>
      simp only [make, tracer, recordCall, map, verdict]
      split
      · exact Recording.runOn_record_bind ..
      · rfl

theorem answer_make_tracer (call : Call A Value) (r : Recording A) :
    ((call.make (tracer A)).runOn r).1.map (List.map (·.shape)) =
      (call.map (·.shape)).verdict := by
  rw [runOn_make_tracer]
  cases (call.map (·.shape)).verdict with
  | error h => rfl
  | ok shapes => exact congrArg Except.ok (r.shapes_nextValues shapes)

/-- All that a call is answered with is of one shape, for each of its operations. -/
theorem exists_shape_of_verdict {η : Type} {shape : η → Shape} (id : η → Nat) {call : Call A η}
    {shapes : List Shape} (accepted : (call.map shape).verdict = .ok shapes) :
    ∃ s, shapes = (call.map id).ops.map fun _ => s := by
  cases call with
  | scale | noise =>
      cases accepted
      exact ⟨_, rfl⟩
  | add | sub | predict =>
      simp only [map, verdict] at accepted
      split at accepted <;> cases accepted
      exact ⟨_, rfl⟩
  | split =>
      simp only [map, verdict] at accepted
      split at accepted <;> cases accepted
      exact ⟨_, rfl⟩
  | concat =>
      simp only [map, verdict] at accepted
      split at accepted
      · rename_i sum rest _
        cases counted : Halt.checked sum <;> rw [counted] at accepted <;> cases accepted
        exact ⟨_, rfl⟩
      · cases accepted

theorem shapes_of_verdict {η : Type} {shape : η → Shape} {id : η → Nat} {call : Call A η}
    {shapes : List Shape} (accepted : (call.map shape).verdict = .ok shapes) :
    (List.zipWith Instruction.mk (call.map id).ops shapes).map (·.shape) = shapes := by
  obtain ⟨s, rfl⟩ := exists_shape_of_verdict id accepted
  rw [List.zipWith_map_right, List.zipWith_self, List.map_map]
  rfl

/-! ### Calls on tensors -/

/-- The result of a concatenation has a layout. Other calls keep the shapes that there are. -/
def HasLayout : Call A Shape → Prop
  | concat s t => ∀ sum ∈ Shape.stack? s t, sum.span < spanLimit
  | scale .. | add .. | sub .. | split .. | noise .. | predict .. => True

instance : (call : Call A Shape) → Decidable call.HasLayout
  | concat s t => inferInstanceAs (Decidable (∀ sum ∈ Shape.stack? s t, sum.span < spanLimit))
  | scale .. | add .. | sub .. | split .. | noise .. | predict .. => isTrue trivial

theorem answer_combine {operation : String} {f : A.Elem → A.Elem → A.Elem} (x y : Tensor A.Elem)
    (state : ν) :
    ((do return [← reported (x.combine operation f y)] :
        Action ν (List (Tensor A.Elem))).runOn state).1.map (List.map (·.shape)) =
      if x.shape = y.shape then .ok [x.shape]
      else Halt.fail (.shapeMismatch operation x.shape y.shape) := by
  split
  · rename_i same
    rw [Tensor.combine_same _ _ same]
    rfl
  · rename_i differ
    rw [Action.runOn_bind_error (runOn_combine_mismatched differ state)]
    rfl

/-- With a network that obeys, calls on tensors follow the verdict on their shapes. -/
theorem answer_make_eager {network : Network A ν} (obedient : network.Obedient)
    (call : Call A (Tensor A.Elem)) (layout : (call.map (·.shape)).HasLayout) (state : ν) :
    ((call.make (eager (some network))).runOn state).1.map (List.map (·.shape)) =
      (call.map (·.shape)).verdict := by
  cases call with
  | scale | noise => rfl
  | add x y => exact answer_combine x y state
  | sub x y => exact answer_combine x y state
  | concat x y =>
      simp only [make, map, verdict]
      rcases stacked : Shape.stack? x.shape y.shape with _ | _ | ⟨sum, rest⟩
      · rw [Action.runOn_bind_error (runOn_concat_unstacked stacked state)]
        rfl
      · exact absurd stacked (Shape.stack?_ne_nil _ _)
      · have room : Shape.span (sum :: rest) < spanLimit := layout _ stacked
        have fits : sum < Halt.wordLimit :=
          Nat.lt_of_le_of_lt (Shape.le_span_cons sum rest) (room.trans (by decide))
        have ran : ((eager (some network)).concat x y).runOn state = _ :=
          runOn_concat stacked state
        rw [if_pos room] at ran
        rw [Action.runOn_bind_ok ran]
        dsimp only
        rw [Halt.checked_eq_ok_iff.mpr ⟨fits, rfl⟩]
        rfl
  | split x =>
      simp only [make, map, verdict]
      cases halved : Shape.half? x.shape with
      | none =>
          rw [Action.runOn_bind_error (runOn_split_unsplittable halved state)]
          rfl
      | some half =>
          rw [Action.runOn_bind_ok (runOn_split halved state)]
          rfl
  | predict sample timestep conditioning =>
      simp only [make, map, verdict]
      split
      · rename_i rows
        obtain ⟨noise, after, called, same⟩ := callNetwork_obedient obedient timestep rows state
        have ran : ((eager (some network)).predict sample timestep conditioning).runOn state =
          (.ok noise, after) := called
        rw [Action.runOn_bind_ok ran]
        exact congrArg (fun s => (Except.ok [s] : Except Halt (List Shape))) same
      · rename_i rows
        have failed : ((eager (some network)).predict sample timestep conditioning).runOn state =
            (.error (.error (.shapeMismatch "unet" sample.shape conditioning.shape)), state) := by
          change (callNetwork (some network) sample timestep conditioning).runOn state = _
          rw [callNetwork, if_pos rows]
          rfl
        rw [Action.runOn_bind_error failed]
        rfl

end Backend.Call

end Diffusion
