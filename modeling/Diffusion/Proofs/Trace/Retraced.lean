import Diffusion.Proofs.Program.Renumbering
import Diffusion.Proofs.Trace.Faithful

/-!
A program replayed on the tracer is recorded anew.

What is recorded is the program under new numbers, with the other half beside every slice: a split
records both. Nothing reads the other half, so both programs are lowered to the same one. Main
statement: `Program.retraced`.
-/

namespace Diffusion

open Backend (tracer)

variable {A : Arithmetic} {σ τ η ξ : Type}

namespace Op

/-- The call that carries out an operation, on the handles of its operands. -/
def call (handle : Nat → η) : Op A → Backend.Call A η
  | scale input factor => .scale (handle input) (A.narrow factor)
  | add lhs rhs => .add (handle lhs) (handle rhs)
  | sub lhs rhs => .sub (handle lhs) (handle rhs)
  | concat lhs rhs => .concat (handle lhs) (handle rhs)
  | slice input _ => .split (handle input)
  | noise like seed => .noise (handle like) seed
  | unet sample conditioning timestep => .predict (handle sample) timestep (handle conditioning)

/-- Where the result of an operation is in the answer of its call. -/
def place : Op A → Nat
  | slice _ .second => 1
  | _ => 0

/-- The operations that the call for an operation has: both halves in place of one. -/
def halves : Op A → List (Op A)
  | slice input _ => [slice input .first, slice input .second]
  | op => [op]

theorem place_lt_halves (op : Op A) : op.place < op.halves.length := by
  cases op with
  | slice input half => cases half <;> simp [place, halves]
  | scale | add | sub | concat | noise | unet => exact Nat.one_pos

variable {op : Op A}

theorem operands_call (handle : Nat → η) : (op.call handle).operands = op.operands.map handle := by
  cases op <;> rfl

theorem map_call (handle : Nat → η) (f : η → ξ) :
    (op.call handle).map f = op.call (f ∘ handle) := by
  cases op <;> rfl

theorem call_congr {handle other : Nat → η} (agree : ∀ v ∈ op.operands, handle v = other v) :
    op.call handle = op.call other := by
  cases op <;> simp_all [operands, call]

theorem ops_call (widens : A.WidensExactly) (exact : op.Exact) (name : Nat → Nat) :
    (op.call name).ops = op.halves.map (·.mapOperands name) := by
  cases op with
  | scale input factor =>
      obtain ⟨x, rfl⟩ := exact input factor rfl
      change [Op.scale (name input) (A.widen (A.narrow (A.widen x)))] = [.scale (name input) _]
      rw [widens x]
  | add | sub | concat | slice | noise | unet => rfl

theorem map_ops_call (name : Nat → Nat) (s : Shape) :
    ((op.call name).ops.map fun _ => s) = op.halves.map fun _ => s := by
  cases op <;> rfl

end Op

/-- The instructions that are recorded for one, under new names. -/
def Instruction.recorded (name : Nat → Nat) (i : Instruction A) : List (Instruction A) :=
  i.op.halves.map fun op => ⟨op.mapOperands name, i.shape⟩

namespace Program

/-! ### Names -/

def recordedLength (is : List (Instruction A)) : Nat := (is.flatMap (·.op.halves)).length

theorem recordedLength_cons (i : Instruction A) (is : List (Instruction A)) :
    recordedLength (i :: is) = i.op.halves.length + recordedLength is := by
  simp [recordedLength]

theorem length_recorded (name : Nat → Nat) (is : List (Instruction A)) :
    (is.flatMap (·.recorded name)).length = recordedLength is := by
  simp [recordedLength, List.length_flatMap, Instruction.recorded]

theorem zipWith_ops (widens : A.WidensExactly) {i : Instruction A} (exact : i.op.Exact)
    (name : Nat → Nat) :
    List.zipWith Instruction.mk (i.op.call name).ops (i.op.halves.map fun _ => i.shape) =
      i.recorded name := by
  rw [Op.ops_call widens exact, List.zipWith_map, List.zipWith_self]
  rfl

variable {p : Program A} {f : Nat → Nat}

def IsHalf (name : Nat → Nat) (i : Instruction A) : Prop :=
  ∃ input half, i.op = .slice (name input) half

theorem Renumbers.cons_recorded {i : Instruction A} {is js : List (Instruction A)} {v u : Nat}
    (here : f v = u + i.op.place)
    (unnamed : ∀ u', u ≤ u' → u' < u + i.op.halves.length → f v ≠ u' → ∀ w, f w ≠ u')
    (rest : Renumbers (IsHalf f) f (v + 1) (u + i.op.halves.length) is js) :
    Renumbers (IsHalf f) f v u (i :: is) (i.recorded f ++ js) := by
  obtain ⟨op, s⟩ := i
  cases op with
  | slice input half =>
      have one : u < u + 1 := Nat.lt_succ_self u
      have two : u + 1 < u + 2 := Nat.lt_succ_self (u + 1)
      cases half with
      | first =>
          have other := unnamed (u + 1) (Nat.le_of_lt one) two (here ▸ Nat.ne_of_lt one)
          exact .keep here (.spare other ⟨input, .second, rfl⟩ rest)
      | second =>
          have other := unnamed u (Nat.le_refl u) (one.trans two) (here ▸ Nat.ne_of_gt one)
          exact .spare other ⟨input, .first, rfl⟩ (.keep here rest)
  | scale | add | sub | concat | noise | unet => exact .keep here rest

/-- If each value has the number at which its instruction is recorded, and no other name falls among
these numbers, what is recorded is a renumbering. -/
theorem renumbers_recorded {is : List (Instruction A)} {v u : Nat}
    (names : ∀ (k : Nat) i, is[k]? = some i →
      f (v + k) = u + recordedLength (is.take k) + i.op.place)
    (others : ∀ w, f w < u ∨ (v ≤ w ∧ w < v + is.length) ∨ u + recordedLength is ≤ f w) :
    Renumbers (IsHalf f) f v u is (is.flatMap (·.recorded f)) := by
  induction is generalizing v u with
  | nil => exact .nil
  | cons i is ih =>
      have total := recordedLength_cons i is
      have length : (i :: is).length = is.length + 1 := rfl
      have here : f v = u + i.op.place := names 0 i rfl
      have inside := i.op.place_lt_halves
      have namesLater : ∀ (k : Nat) j, is[k]? = some j →
          f (v + 1 + k) = u + i.op.halves.length + recordedLength (is.take k) + j.op.place := by
        intro k j found
        have name := names (k + 1) j (by simpa using found)
        rw [List.take_succ_cons, recordedLength_cons] at name
        rw [show v + 1 + k = v + (k + 1) by omega, name]
        omega
      have later : ∀ w, v < w → w < v + (i :: is).length → u + i.op.halves.length ≤ f w := by
        intro w after before
        obtain ⟨k, rfl⟩ := Nat.exists_eq_add_of_lt after
        have bound : k < is.length := by omega
        rw [show v + k + 1 = v + 1 + k by omega,
          namesLater k is[k] (List.getElem?_eq_getElem bound)]
        omega
      refine Renumbers.cons_recorded here ?_ (ih namesLater fun w => ?_)
      · -- A name among the numbers of this instruction could only be that of its own value.
        rintro u' low high other w rfl
        rcases others w with before | ⟨after, below⟩ | beyond
        · omega
        · rcases Nat.eq_or_lt_of_le after with rfl | after
          · exact other rfl
          · have := later w after below
            omega
        · omega
      · by_cases own : w = v
        · subst own
          omega
        · have := others w
          omega

/-- The number that a value has once every slice has both halves. -/
def newName (p : Program A) (v : Nat) : Nat :=
  if v < p.inputs.size then v
  else p.inputs.size + recordedLength (p.instructions.toList.take (v - p.inputs.size)) +
    (p.instructions[v - p.inputs.size]?.elim 0 (·.op.place))

theorem newName_input {v : Nat} (input : v < p.inputs.size) : p.newName v = v := if_pos input

theorem newName_instruction {k : Nat} {i : Instruction A} (found : p.instructions[k]? = some i) :
    p.newName (p.inputs.size + k) =
      p.inputs.size + recordedLength (p.instructions.toList.take k) + i.op.place := by
  rw [newName, if_neg (by omega), Nat.add_sub_cancel_left, found]
  rfl

/-- The program with the other half beside every slice. -/
def withBothHalves (p : Program A) : Program A where
  inputs := p.inputs
  instructions := (p.instructions.toList.flatMap (·.recorded p.newName)).toArray
  output := p.newName p.output

theorem renumbered_withBothHalves (p : Program A) :
    Renumbered (IsHalf p.newName) p.newName p p.withBothHalves where
  inputs := rfl
  fixed _ := newName_input
  output := rfl
  instructions := by
    refine renumbers_recorded (fun k i found => newName_instruction (by simpa using found)) ?_
    intro w
    by_cases input : w < p.inputs.size
    · rw [newName_input input]
      exact .inl input
    · by_cases inside : w < p.inputs.size + p.instructions.toList.length
      · exact .inr (.inl ⟨Nat.le_of_not_lt input, inside⟩)
      · refine .inr (.inr ?_)
        rw [newName, if_neg input, List.take_of_length_le (by omega)]
        exact Nat.le_add_right _ _

/-- Whatever is read has been renamed, so nothing reads the other halves. -/
theorem exists_name_of_operand {j : Instruction A} (member : j ∈ p.withBothHalves.instructions)
    {u : Nat} (operand : u ∈ j.op.operands) : ∃ v, p.newName v = u := by
  obtain ⟨i, -, recorded⟩ := List.mem_flatMap.mp (List.mem_toArray.mp member)
  obtain ⟨op, -, rfl⟩ := List.mem_map.mp recorded
  rw [Op.operands_mapOperands] at operand
  obtain ⟨v, -, name⟩ := List.mem_map.mp operand
  exact ⟨v, name⟩

/-! ### Replaying -/

theorem of_runOn_perform {B : Backend A σ τ} {values : Array (Option τ)} {op : Op A}
    {handle : Nat → τ} (found : ∀ v ∈ op.operands, lookup values v = .ok (handle v))
    {s after : σ} {x : τ} (performed : (perform B values op).runOn s = (.ok x, after)) :
    ∃ answers, ((op.call handle).make B).runOn s = (.ok answers, after) ∧
      answers[op.place]? = some x := by
  cases op with
  | scale input | noise input =>
      have here := found input List.mem_cons_self
      simp only [perform, here, Action.ofExcept_ok, pure_bind] at performed
      exact ⟨[x], Action.runOn_bind_ok performed, rfl⟩
  | add lhs rhs | sub lhs rhs | concat lhs rhs | unet lhs rhs =>
      have left := found lhs List.mem_cons_self
      have right := found rhs (by simp [Op.operands])
      simp only [perform, left, right, Action.ofExcept_ok, pure_bind] at performed
      exact ⟨[x], Action.runOn_bind_ok performed, rfl⟩
  | slice input half =>
      have here := found input List.mem_cons_self
      simp only [perform, here, Action.ofExcept_ok, pure_bind] at performed
      obtain ⟨⟨first, second⟩, between, split, picked⟩ := Action.of_bind_ok performed
      refine ⟨[first, second], (Action.runOn_bind_ok split).trans ?_, ?_⟩
      · cases half <;> cases picked <;> rfl
      · cases half <;> cases picked <;> rfl

/-- To perform an instruction on the tracer is to record it. -/
theorem of_performDeclared_tracer {values : Array (Option Value)} {value : Nat}
    {i : Instruction A} {handle : Nat → Value}
    (found : ∀ v ∈ i.op.operands, lookup values v = .ok (handle v)) {r after : Recording A}
    {x : Value} (performed :
      (performDeclared (tracer A) values value i).runOn r = (.ok x, after)) :
    ((i.op.call handle).map (·.shape)).verdict = .ok (i.op.halves.map fun _ => i.shape) ∧
      x = ⟨r.numValues + i.op.place, i.shape⟩ ∧
      after = r.extended (List.zipWith Instruction.mk ((i.op.call handle).map (·.id)).ops
        (i.op.halves.map fun _ => i.shape)) := by
  obtain ⟨y, between, ran, checked⟩ := Action.of_bind_ok performed
  obtain ⟨answers, made, placed⟩ := of_runOn_perform found ran
  rw [Backend.Call.runOn_make_tracer] at made
  split at made
  · cases made
  · rename_i shapes accepted
    cases made
    obtain ⟨s, rfl⟩ : ∃ s, shapes = i.op.halves.map fun _ => s := by
      obtain ⟨s, same⟩ := Backend.Call.exists_shape_of_verdict (·.id) accepted
      rw [Op.map_call, Op.map_ops_call] at same
      exact ⟨s, same⟩
    rw [Recording.nextValues, List.getElem?_mapIdx, List.getElem?_map,
      List.getElem?_eq_getElem i.op.place_lt_halves] at placed
    cases placed
    change (if s = i.shape then _ else _ : Action (Recording A) Value).runOn _ = _ at checked
    split at checked
    · rename_i declared
      subst declared
      cases checked
      exact ⟨accepted, rfl, rfl⟩
    · cases checked

/-- What is recorded and held after the first instructions of a program. -/
structure RetracedTo (p : Program A) (k : Nat) (w : Draft A) (values : Array Value) : Prop where
  inputs : w.recording.inputs = p.inputs
  instructions : w.recording.instructions.toList =
    (p.instructions.toList.take k).flatMap (·.recorded p.newName)
  size : values.size = p.inputs.size + k
  named : ∀ v x, values[v]? = some x → x.id = p.newName v ∧ w.Has x

theorem RetracedTo.numValues {k : Nat} {w : Draft A} {values : Array Value}
    (retraced : p.RetracedTo k w values) :
    w.recording.numValues = p.inputs.size + recordedLength (p.instructions.toList.take k) := by
  have count := congrArg List.length retraced.instructions
  rw [Array.length_toList, length_recorded] at count
  rw [Recording.numValues, retraced.inputs, count]

theorem RetracedTo.push {k : Nat} {w w' : Draft A} {values : Array Value} {i : Instruction A}
    (retraced : p.RetracedTo k w values) (found : p.instructions[k]? = some i)
    (grown : w'.recording = w.recording.extended (i.recorded p.newName)) :
    p.RetracedTo (k + 1) w' (values.push ⟨w.recording.numValues + i.op.place, i.shape⟩) := by
  have shapes : (i.recorded p.newName).map (·.shape) = i.op.halves.map fun _ => i.shape := by
    rw [Instruction.recorded, List.map_map]
    rfl
  have held : w'.recording.values =
      w.recording.values ++ w.recording.nextValues (i.op.halves.map fun _ => i.shape) := by
    rw [grown, Recording.values_extended, shapes]
  constructor
  · rw [grown]
    exact retraced.inputs
  · rw [grown, List.take_add_one, Array.getElem?_toList, found, List.flatMap_append,
      ← retraced.instructions]
    simp [Recording.extended]
  · rw [Array.size_push, retraced.size, Nat.add_assoc]
  · intro v x there
    rw [Draft.has_iff_mem_values, held]
    rw [Array.getElem?_push] at there
    split at there
    · -- The place of the result among the values of the call is the one that its name counts.
      rename_i newest
      cases there
      constructor
      · rw [newest, retraced.size, newName_instruction found, ← retraced.numValues]
      · refine List.mem_append_right _ (List.mem_of_getElem? (i := i.op.place) ?_)
        rw [Recording.nextValues, List.getElem?_mapIdx, List.getElem?_map,
          List.getElem?_eq_getElem i.op.place_lt_halves]
        rfl
    · obtain ⟨name, has⟩ := retraced.named v x there
      exact ⟨name, List.mem_append_left _ (Draft.has_iff_mem_values.mp has)⟩

theorem RetracedTo.step {k : Nat} {w : Draft A} {values : Array Value} {i : Instruction A}
    (retraced : p.RetracedTo k w values) (widens : A.WidensExactly)
    (found : p.instructions[k]? = some i) (exact : i.op.Exact)
    (ordered : ∀ v ∈ i.op.operands, v < p.inputs.size + k) {x : Value} {r : Recording A}
    (performed : (performDeclared (tracer A) (values.map some) values.size i).runOn w.recording =
      (.ok x, r)) : ∃ w', r = w'.recording ∧ p.RetracedTo (k + 1) w' (values.push x) := by
  let handle : Nat → Value := fun v => values.getD v x
  have held : ∀ v ∈ i.op.operands, values[v]? = some (handle v) := by
    intro v member
    have inside : v < values.size := retraced.size ▸ ordered v member
    simp [handle, inside]
  have read : ∀ v ∈ i.op.operands, lookup (values.map some) v = .ok (handle v) := by
    intro v member
    rw [lookup_map_some, held v member]
  obtain ⟨accepted, rfl, rfl⟩ := of_performDeclared_tracer read performed
  have names : ∀ v ∈ i.op.operands, ((·.id) ∘ handle) v = p.newName v :=
    fun v member => (retraced.named v _ (held v member)).1
  have has : ∀ v ∈ (i.op.call handle).operands, w.Has v := by
    intro v member
    rw [Op.operands_call] at member
    obtain ⟨operand, reads, rfl⟩ := List.mem_map.mp member
    exact (retraced.named _ _ (held operand reads)).2
  obtain ⟨w', grown⟩ := w.exists_extended (Draft.implies_of_verdict has accepted)
  refine ⟨w', grown.symm, retraced.push found ?_⟩
  rw [grown, Op.map_call, Op.call_congr names, zipWith_ops widens exact]

/-- However far a replay on the tracer has come, it has recorded what is recorded for the
instructions so far. -/
theorem exists_retracedTo (widens : A.WidensExactly) (wellTyped : p.WellTyped)
    (exact : ∀ i ∈ p.instructions, i.op.Exact) {w : Draft A} {inputs : Array Value}
    (start : p.RetracedTo 0 w inputs) {k : Nat} (inside : k ≤ p.instructions.size)
    {values : Array Value} {r : Recording A}
    (ran : (retain (tracer A) (p.instructions.toList.take k) inputs).runOn w.recording =
      (.ok values, r)) : ∃ w', r = w'.recording ∧ p.RetracedTo k w' values := by
  induction k generalizing values r with
  | zero =>
      cases ran
      exact ⟨w, rfl, start⟩
  | succ k ih =>
      have found : p.instructions[k]? = some p.instructions[k] := Array.getElem?_eq_getElem inside
      rw [List.take_add_one, Array.getElem?_toList, found, Option.toList_some, retain_append] at ran
      obtain ⟨before, between, ranBefore, ranLast⟩ := Action.of_bind_ok ran
      obtain ⟨w', rfl, retraced⟩ := ih (Nat.le_of_succ_le inside) ranBefore
      obtain ⟨x, after, performed, returned⟩ := Action.of_bind_ok ranLast
      cases returned
      exact retraced.step widens found (exact _ (Array.getElem_mem inside))
        (wellTyped.ordered k _ found) performed

end Program

/-! ### From the inputs on -/

namespace Recording

def declareAll (inputs : List ProgramInput) : Action (Recording A) (List Value) :=
  inputs.mapM fun input => declare input.name input.shape

theorem runOn_declareAll (inputs : List ProgramInput) (r : Recording A)
    (early : r.instructions = #[]) : (declareAll inputs).runOn r =
      (.ok (inputs.mapIdx fun k input => ⟨r.inputs.size + k, input.shape⟩),
        { r with inputs := r.inputs ++ inputs.toArray }) := by
  induction inputs generalizing r with
  | nil => simp [declareAll]
  | cons input rest ih =>
      have first : (declare input.name input.shape).runOn r =
          (.ok ⟨r.inputs.size, input.shape⟩, { r with inputs := r.inputs.push input }) := by
        rw [runOn_declare, if_pos (by rw [early]; rfl)]
      have others := ih { r with inputs := r.inputs.push input } early
      rw [declareAll, List.mapM_cons, Action.runOn_bind_ok first]
      rw [declareAll] at others
      rw [Action.runOn_bind_ok others]
      simp [Nat.add_assoc, Nat.add_comm 1, List.mapIdx_cons]

end Recording

namespace Program

variable {p : Program A}

/-- Replays a program on the tracer, on inputs as it declares them. -/
def retrace (p : Program A) : Action (Recording A) Value := do
  let inputs ← Recording.declareAll p.inputs.toList
  p.execute (tracer A) inputs

def declared (p : Program A) : Draft A := ⟨⟨p.inputs, #[]⟩, nofun, nofun⟩

def inputValues (p : Program A) : List Value :=
  p.inputs.toList.mapIdx fun k input => ⟨k, input.shape⟩

theorem retracedTo_zero (p : Program A) : p.RetracedTo 0 p.declared p.inputValues.toArray where
  inputs := rfl
  instructions := rfl
  size := by simp [inputValues]
  named v x found := by
    rw [inputValues, List.getElem?_toArray, List.getElem?_mapIdx, Array.getElem?_toList,
      Option.map_eq_some_iff] at found
    obtain ⟨input, there, rfl⟩ := found
    obtain ⟨inside, rfl⟩ := Array.getElem?_eq_some_iff.mp there
    exact ⟨(newName_input inside).symm,
      (p.declared.recording.toProgram v).valueShape?_input inside⟩

/-- A checked program whose factors are elements, replayed on a fresh tracer, is recorded as itself
under new numbers, with the other half beside every slice, which nothing reads. The recording is a
checked program, and lowering takes both programs to the same one. -/
theorem retraced (widens : A.WidensExactly) (valid : p.Valid)
    (exact : ∀ i ∈ p.instructions, i.op.Exact) {v : Value} {r : Recording A}
    (replayed : p.retrace.runOn .empty = (.ok v, r)) :
    ∃ q, r.finish v = .ok q ∧ q.Valid ∧ (∃ l, p.lower = .ok l ∧ q.lower = .ok l) ∧
      Renumbered (IsHalf p.newName) p.newName p q ∧
      ∀ u, (∀ v, p.newName v ≠ u) → q.output ≠ u ∧ ∀ i ∈ q.instructions, u ∉ i.op.operands := by
  have wellTyped := p.valid_iff_wellTyped.mp valid
  have given : (Recording.declareAll p.inputs.toList).runOn .empty =
      (.ok p.inputValues, p.declared.recording) := by
    rw [Recording.runOn_declareAll _ _ rfl]
    simp [inputValues, declared, Recording.empty]
  rw [retrace, Action.runOn_bind_ok given] at replayed
  obtain ⟨-, values, ran, found⟩ := p.of_execute replayed
  have total : p.instructions.toList.take p.instructions.size = p.instructions.toList :=
    List.take_of_length_le (Nat.le_of_eq Array.length_toList)
  rw [← total] at ran
  obtain ⟨w, rfl, done⟩ := exists_retracedTo widens wellTyped exact p.retracedTo_zero
    (Nat.le_refl _) ran
  obtain ⟨name, has⟩ := done.named _ _ found
  have recorded : w.recording.toProgram v.id = p.withBothHalves := by
    have instructions := done.instructions
    rw [total] at instructions
    rw [Recording.toProgram, done.inputs, name, withBothHalves, ← instructions]
  have valid' := recorded ▸ has.valid
  have renumbered := p.renumbered_withBothHalves
  refine ⟨p.withBothHalves, ?_, valid', renumbered.lower_eq wellTyped
    (p.withBothHalves.valid_iff_wellTyped.mp valid'), renumbered, fun u unnamed => ?_⟩
  · rw [Recording.finish, recorded, valid']
    rfl
  · refine ⟨unnamed p.output, fun i member operand => ?_⟩
    obtain ⟨v, name⟩ := exists_name_of_operand member operand
    exact unnamed v name

/-- A program that adds the second half of its input to the first one, and has copied it before. -/
def crosswise : Program whole where
  inputs := #[⟨"x", [4]⟩]
  instructions := #[⟨.scale 0 (1 : Int), [4]⟩, ⟨.slice 1 .second, [2]⟩, ⟨.slice 0 .first, [2]⟩,
    ⟨.add 2 3, [2]⟩]
  output := 4

theorem retraced_crosswise :
    crosswise.Valid ∧ ∃ r q l, crosswise.retrace.runOn .empty = (.ok ⟨6, [2]⟩, r) ∧
      r.finish ⟨6, [2]⟩ = .ok q ∧ q.numValues = 7 ∧ crosswise.lower = .ok l ∧ q.lower = .ok l ∧
      l.numValues = 4 := by
  have valid : crosswise.Valid := rfl
  have exact : ∀ i ∈ crosswise.instructions, i.op.Exact := fun _ _ _ factor _ => ⟨factor, rfl⟩
  obtain ⟨q, finished, -, ⟨l, lowered, same⟩, -⟩ :=
    retraced (v := ⟨6, [2]⟩) whole_widensExactly valid exact rfl
  refine ⟨valid, _, q, l, rfl, finished, ?_, lowered, same, ?_⟩
  · cases finished
    rfl
  · cases lowered
    rfl

end Program

end Diffusion
