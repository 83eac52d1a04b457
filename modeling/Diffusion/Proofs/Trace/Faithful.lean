import Diffusion.Proofs.Arithmetic.Whole
import Diffusion.Proofs.Backend.Calls
import Diffusion.Proofs.Trace.Draft

/-!
Whatever is recorded is a valid program.

A client of the tracer declares inputs and calls operations on values that it was given before, and
may go on after a call that failed. The log of such calls determines the recording: it has the
inputs and the operations of the calls that were answered, in order, and the values that they were
answered with are its values. Main statement: `Traced.recorded_faithfully`.
-/

namespace Diffusion

open Backend (tracer)

variable {A : Arithmetic}

namespace Recording

def values (r : Recording A) : List Value :=
  (r.toProgram 0).shapes.mapIdx fun id s => ⟨id, s⟩

theorem mem_values_iff {r : Recording A} {v : Value} :
    v ∈ r.values ↔ (r.toProgram 0).valueShape? v.id = some v.shape := by
  rw [values, List.mem_mapIdx, Program.valueShape?_eq_shapes, List.getElem?_eq_some_iff]
  constructor
  · rintro ⟨id, inside, rfl⟩
    exact ⟨inside, rfl⟩
  · rintro ⟨inside, shape⟩
    refine ⟨v.id, inside, ?_⟩
    rw [shape]

theorem values_extended (r : Recording A) (new : List (Instruction A)) :
    (r.extended new).values = r.values ++ r.nextValues (new.map (·.shape)) := by
  have count : (r.toProgram 0).shapes.length = r.numValues := Program.length_shapes _
  rw [values, shapes_extended r new 0 0, List.mapIdx_append, count]
  simp only [values, nextValues, Nat.add_comm]

/-- A call of a client: an input, or an operation on values. -/
inductive Call (A : Arithmetic) where
  | declare (name : String) (shape : Shape)
  | operate (call : Backend.Call A Value)

namespace Call

def operands : Call A → List Value
  | declare .. => []
  | operate call => call.operands

def make : Call A → Action (Recording A) (List Value)
  | declare name shape => do return [← Recording.declare name shape]
  | operate call => call.make (tracer A)

def inputs : Call A → List ProgramInput
  | declare name shape => [⟨name, shape⟩]
  | operate _ => []

/-- The instructions that a call records if it is answered with values. -/
def instructions (values : List Value) : Call A → List (Instruction A)
  | declare .. => []
  | operate call => List.zipWith Instruction.mk (call.map (·.id)).ops (values.map (·.shape))

end Call

end Recording

abbrev TraceLog (A : Arithmetic) := List (Recording.Call A × Except Halt (List Value))

namespace TraceLog

def returned (log : TraceLog A) : List Value :=
  log.flatMap fun (_, answer) => answer.toOption.getD []

/-- The inputs of the calls that were answered. -/
def declared (log : TraceLog A) : List ProgramInput :=
  log.flatMap fun (call, answer) => (answer.toOption.map fun _ => call.inputs).getD []

/-- The instructions of the calls that were answered. -/
def recorded (log : TraceLog A) : List (Instruction A) :=
  log.flatMap fun (call, answer) => (answer.toOption.map call.instructions).getD []

end TraceLog

open TraceLog Recording

/-- The recordings that a client comes to by calls on values that it was given before. -/
inductive Traced : TraceLog A → Recording A → Prop where
  | start : Traced [] .empty
  | call {log : TraceLog A} {r : Recording A} (before : Traced log r) (call : Recording.Call A)
      (known : ∀ v ∈ call.operands, v ∈ log.returned) :
      Traced (log ++ [(call, (call.make.runOn r).1)]) (call.make.runOn r).2

namespace Draft

variable {w : Draft A}

theorem has_iff_mem_values {v : Value} : w.Has v ↔ v ∈ w.recording.values :=
  mem_values_iff.symm

/-- A call of an operation on values of a draft implies the shapes that it is answered with. -/
theorem implies_of_verdict {call : Backend.Call A Value} {shapes : List Shape}
    (has : ∀ v ∈ call.operands, w.Has v)
    (accepted : (call.map (·.shape)).verdict = .ok shapes) :
    ∀ i ∈ List.zipWith Instruction.mk (call.map (·.id)).ops shapes,
      (w.recording.toProgram 0).Implies i.op i.shape := by
  have found : ∀ v ∈ call.operands, (w.recording.toProgram 0).valueShape? v.id = some v.shape :=
    fun v member => (has v member).operand
  cases call with
  | scale x factor =>
      cases accepted
      exact List.forall_mem_singleton.mpr (.scale (found x (by simp [Backend.Call.operands])))
  | noise x seed =>
      cases accepted
      exact List.forall_mem_singleton.mpr (.noise (found x (by simp [Backend.Call.operands])))
  | add x y | sub x y =>
      obtain ⟨left, right⟩ : (w.recording.toProgram 0).valueShape? x.id = some x.shape ∧
          (w.recording.toProgram 0).valueShape? y.id = some y.shape := by
        simpa [Backend.Call.operands] using found
      simp only [Backend.Call.map, Backend.Call.verdict] at accepted
      split at accepted
      · rename_i same
        cases accepted
        rw [← same] at right
        refine List.forall_mem_singleton.mpr ?_
        constructor
        · exact left
        · exact right
      · cases accepted
  | concat x y =>
      obtain ⟨left, right⟩ : (w.recording.toProgram 0).valueShape? x.id = some x.shape ∧
          (w.recording.toProgram 0).valueShape? y.id = some y.shape := by
        simpa [Backend.Call.operands] using found
      simp only [Backend.Call.map, Backend.Call.verdict] at accepted
      split at accepted
      · rename_i sum rest stacked
        rcases counted : Halt.checked sum with _ | count <;> rw [counted] at accepted <;>
          cases accepted
        obtain ⟨fits, rfl⟩ := Halt.checked_eq_ok_iff.mp counted
        exact List.forall_mem_singleton.mpr (.concat left right stacked fits)
      · cases accepted
  | split x =>
      have operand : w.Has x := has x (by simp [Backend.Call.operands])
      simp only [Backend.Call.map, Backend.Call.verdict] at accepted
      split at accepted
      · rename_i half halved
        cases accepted
        exact List.forall_mem_cons.mpr ⟨implies_slice operand halved .first,
          List.forall_mem_singleton.mpr (implies_slice operand halved .second)⟩
      · cases accepted
  | predict sample timestep conditioning =>
      obtain ⟨left, right⟩ :
          (w.recording.toProgram 0).valueShape? sample.id = some sample.shape ∧
            (w.recording.toProgram 0).valueShape? conditioning.id = some conditioning.shape := by
        simpa [Backend.Call.operands] using found
      simp only [Backend.Call.map, Backend.Call.verdict] at accepted
      split at accepted
      · rename_i rows
        cases accepted
        exact List.forall_mem_singleton.mpr (.unet left right rows)
      · cases accepted

theorem exists_extended (w : Draft A) {new : List (Instruction A)}
    (implies : ∀ i ∈ new, (w.recording.toProgram 0).Implies i.op i.shape) :
    ∃ w' : Draft A, w'.recording = w.recording.extended new := by
  induction new generalizing w with
  | nil => exact ⟨w, (Recording.extended_nil _).symm⟩
  | cons i rest ih =>
      obtain ⟨here, others⟩ := List.forall_mem_cons.mp implies
      obtain ⟨w', grown⟩ := ih (w.record i.op i.shape here) fun other member =>
        (others other member).mono fun _ _ found => Recording.valueShape?_extended found
      refine ⟨w', ?_⟩
      rw [grown, ← List.singleton_append, Recording.extended_append]
      rfl

theorem exists_declared (w : Draft A) (input : ProgramInput)
    (early : w.recording.instructions = #[]) :
    ∃ w' : Draft A,
      w'.recording = { w.recording with inputs := w.recording.inputs.push input } := by
  refine ⟨⟨{ w.recording with inputs := w.recording.inputs.push input }, ?_, ?_⟩, rfl⟩
  · intro k i found
    simp [early] at found
  · intro k i found
    simp [early] at found

end Draft

namespace Recording

theorem runOn_declare (r : Recording A) (name : String) (shape : Shape) :
    (declare name shape).runOn r =
      if r.instructions.isEmpty then
        (.ok ⟨r.inputs.size, shape⟩, { r with inputs := r.inputs.push ⟨name, shape⟩ })
      else (.error (.error (.lateInput name)), r) := by
  have unfolded : (declare name shape).runOn r = (if r.instructions.isEmpty then (do
      set { r with inputs := r.inputs.push ⟨name, shape⟩ }
      return ⟨r.inputs.size, shape⟩)
    else Action.fail (.lateInput name) : Action (Recording A) Value).runOn r := rfl
  rw [unfolded]
  split <;> rfl

theorem runOn_make_declare (r : Recording A) (name : String) (shape : Shape) :
    (Call.declare name shape).make.runOn r =
      if r.instructions.isEmpty then
        (.ok [⟨r.inputs.size, shape⟩], { r with inputs := r.inputs.push ⟨name, shape⟩ })
      else (.error (.error (.lateInput name)), r) := by
  rw [Call.make, Action.runOn_bind, runOn_declare]
  cases r.instructions.isEmpty <;> rfl

theorem Call.left_of_make_error {call : Call A} {r left : Recording A} {h : Halt}
    (failed : call.make.runOn r = (.error h, left)) : left = r := by
  cases call with
  | declare name shape =>
      rw [runOn_make_declare] at failed
      split at failed <;> cases failed
      rfl
  | operate call =>
      rw [make, Backend.Call.runOn_make_tracer] at failed
      split at failed <;> cases failed
      rfl

theorem values_declared {r : Recording A} (input : ProgramInput)
    (early : r.instructions = #[]) :
    { r with inputs := r.inputs.push input }.values =
      r.values ++ [⟨r.inputs.size, input.shape⟩] := by
  simp [values, Program.shapes, toProgram, early, List.mapIdx_append]

end Recording

/-- A call on values of a draft changes nothing, or it adds to the draft what it asks for. -/
theorem Draft.make_cases (w : Draft A) (call : Recording.Call A)
    (has : ∀ v ∈ call.operands, w.Has v) :
    (∃ h, call.make.runOn w.recording = (.error h, w.recording)) ∨
      ∃ values, ∃ w' : Draft A, call.make.runOn w.recording = (.ok values, w'.recording) ∧
        w'.recording.inputs.toList = w.recording.inputs.toList ++ call.inputs ∧
        w'.recording.instructions.toList =
          w.recording.instructions.toList ++ call.instructions values ∧
        w'.recording.values = w.recording.values ++ values := by
  cases call with
  | declare name shape =>
      rw [Recording.runOn_make_declare]
      split
      · rename_i early
        have none := Array.isEmpty_iff.mp early
        obtain ⟨w', grown⟩ := w.exists_declared ⟨name, shape⟩ none
        refine .inr ⟨_, w', by rw [grown], ?_⟩
        rw [grown]
        exact ⟨by simp [Recording.Call.inputs], by simp [Recording.Call.instructions],
          Recording.values_declared _ none⟩
      · exact .inl ⟨_, rfl⟩
  | operate call =>
      rw [Recording.Call.make, Backend.Call.runOn_make_tracer]
      split
      · exact .inl ⟨_, rfl⟩
      · rename_i shapes accepted
        obtain ⟨w', grown⟩ := w.exists_extended (implies_of_verdict has accepted)
        refine .inr ⟨_, w', by rw [grown], ?_⟩
        rw [grown]
        refine ⟨(List.append_nil _).symm, ?_, ?_⟩
        · simp [Recording.extended, Recording.Call.instructions]
        · rw [Recording.values_extended, Backend.Call.shapes_of_verdict accepted]

/-- What a client knows of a recording that it has made, and that the recording is a draft. -/
structure TraceLog.Describes (log : TraceLog A) (w : Draft A) : Prop where
  inputs : w.recording.inputs.toList = log.declared
  instructions : w.recording.instructions.toList = log.recorded
  values : w.recording.values = log.returned

theorem Traced.described {log : TraceLog A} {r : Recording A} (traced : Traced log r) :
    ∃ w : Draft A, w.recording = r ∧ log.Describes w := by
  induction traced with
  | start => exact ⟨⟨.empty, nofun, nofun⟩, rfl, rfl, rfl, rfl⟩
  | @call log r before call known ih =>
      obtain ⟨w, rfl, describes⟩ := ih
      have has : ∀ v ∈ call.operands, w.Has v := fun v member =>
        Draft.has_iff_mem_values.mpr (describes.values ▸ known v member)
      rcases w.make_cases call has with
        ⟨h, failed⟩ | ⟨values, w', made, inputs, instructions, grown⟩
      · rw [failed]
        refine ⟨w, rfl, ?_⟩
        constructor
        · simp [declared, describes.inputs, Except.toOption]
        · simp [recorded, describes.instructions, Except.toOption]
        · simp [returned, describes.values, Except.toOption]
      · rw [made]
        refine ⟨w', rfl, ?_⟩
        constructor
        · simp [inputs, declared, describes.inputs, Except.toOption]
        · simp [instructions, recorded, describes.instructions, Except.toOption]
        · simp [grown, returned, describes.values, Except.toOption]

theorem Recording.map_id_values (r : Recording A) :
    r.values.map (·.id) = List.range r.numValues := by
  have count : (r.toProgram 0).shapes.length = r.numValues := Program.length_shapes _
  apply List.ext_getElem <;> simp [values, count]

/-- A client that calls operations on values that it was given before has recorded exactly what was
answered: the inputs and instructions of its calls in order. A call that fails leaves the recording
alone. The values that it was given are numbered as they came, and with any of them as its result
the recording is a checked program in which all of them have their shapes. -/
theorem Traced.recorded_faithfully {log : TraceLog A} {r : Recording A} (traced : Traced log r) :
    r.inputs.toList = log.declared ∧ r.instructions.toList = log.recorded ∧
      log.returned.map (·.id) = List.range r.numValues ∧
      (∀ (call : Recording.Call A) h left, call.make.runOn r = (.error h, left) → left = r) ∧
      ∀ v ∈ log.returned, ∃ p, r.finish v = .ok p ∧ p.Valid ∧ p.inputs.toList = log.declared ∧
        p.outputShape? = some v.shape ∧
        ∀ u ∈ log.returned, p.valueShape? u.id = some u.shape := by
  obtain ⟨w, rfl, describes⟩ := traced.described
  refine ⟨describes.inputs, describes.instructions, ?_, fun _ _ _ => Call.left_of_make_error, ?_⟩
  · rw [← describes.values, map_id_values]
  · intro v given
    have has : ∀ u ∈ log.returned, w.Has u := fun u member =>
      Draft.has_iff_mem_values.mpr (describes.values ▸ member)
    have valid := (has v given).valid
    refine ⟨w.recording.toProgram v.id, ?_, valid, describes.inputs, has v given,
      fun u member => has u member⟩
    rw [finish, valid]
    rfl

/-- A client that splits its only input. Neither can it add a half to the whole, nor declare another
input. -/
theorem recorded_faithfully_halves :
    ∃ (log : TraceLog whole) (r : Recording whole), Traced log r ∧
      log.map (fun (_, answer) => answer.toOption) =
        [some [⟨0, [2, 3]⟩], some [⟨1, [1, 3]⟩, ⟨2, [1, 3]⟩], none, none] ∧
      ∃ p, r.finish ⟨2, [1, 3]⟩ = .ok p ∧ p.Valid ∧ p.outputShape? = some [1, 3] := by
  have first : Traced (A := whole) _ _ := Traced.start.call (.declare "x" [2, 3]) nofun
  have second := first.call (.operate (.split ⟨0, [2, 3]⟩)) (by decide)
  have third := second.call (.operate (.add ⟨1, [1, 3]⟩ ⟨0, [2, 3]⟩)) (by decide)
  have traced := third.call (.declare "y" [1]) nofun
  obtain ⟨-, -, -, -, finished⟩ := traced.recorded_faithfully
  obtain ⟨p, finish, valid, -, shape, -⟩ := finished ⟨2, [1, 3]⟩ (by decide)
  exact ⟨_, _, traced, by decide, p, finish, valid, shape⟩

end Diffusion
