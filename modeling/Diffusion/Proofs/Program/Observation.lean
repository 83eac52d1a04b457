import Diffusion.Proofs.Action.Notes
import Diffusion.Proofs.Program.Retention

/-!
What can be seen of a replay besides its answer: which operations it asks of the backend, and which
values it holds.

Both are noted while the replay runs. `recorded` is a backend that notes the operations asked of it,
and `executeWatched` is the interpreter that notes the values held at the start and right after each
result is stored. Main statement: `execute_releasing`, by which the releases can be seen neither in
the answer nor in the operations, and stay within the tables.
-/

namespace Diffusion

open Diffusion.Action (Annotates note onFirst annotates_ofExcept annotates_onFirst annotates_pure)

/-- An operation as a backend is asked for it. -/
inductive Backend.Request (A : Arithmetic) (τ : Type) where
  | scale (x : τ) (factor : A.Elem)
  | add (x y : τ)
  | sub (x y : τ)
  | concat (x y : τ)
  | split (x : τ)
  | noise (x : τ) (seed : UInt64)
  | predict (sample : τ) (timestep : A.Elem) (conditioning : τ)

variable {A : Arithmetic} {σ τ α : Type}

/-- The backend with a record of what is asked of it, failed requests included, in order. -/
def Backend.recorded (B : Backend A σ τ) : Backend A (σ × List (Request A τ)) τ where
  shape := B.shape
  scale x factor := do note (.scale x factor); onFirst (B.scale x factor)
  add x y := do note (.add x y); onFirst (B.add x y)
  sub x y := do note (.sub x y); onFirst (B.sub x y)
  concat x y := do note (.concat x y); onFirst (B.concat x y)
  split x := do note (.split x); onFirst (B.split x)
  noise x seed := do note (.noise x seed); onFirst (B.noise x seed)
  predict x timestep y := do note (.predict x timestep y); onFirst (B.predict x timestep y)

namespace Program

variable (p : Program A) (B : Backend A σ τ)

/-! ### Recorded requests -/

theorem perform_recorded (values : Array (Option τ)) (op : Op A) :
    (perform B.recorded values op).Annotates (perform B values op) := by
  have asked : ∀ (request : Backend.Request A τ) (x : Action σ τ),
      (note request >>= fun _ => onFirst x).Annotates x :=
    fun request x => (annotates_onFirst x).note request
  cases op with
  | scale input factor | noise input seed =>
      exact (annotates_ofExcept _).bind fun x => asked _ _
  | slice input half =>
      exact (annotates_ofExcept _).bind fun x =>
        ((annotates_onFirst (B.split x)).note _).bind fun halves => annotates_pure _
  | add lhs rhs | sub lhs rhs | concat lhs rhs | unet lhs rhs timestep =>
      exact (annotates_ofExcept _).bind fun x => (annotates_ofExcept _).bind fun y => asked _ _

theorem performDeclared_recorded (values : Array (Option τ)) (value : Nat) (i : Instruction A) :
    (performDeclared B.recorded values value i).Annotates (performDeclared B values value i) := by
  refine (perform_recorded B values i.op).bind fun result => ?_
  change Annotates (if B.shape result = i.shape then pure result
    else Action.fail (.producedShape value (B.shape result) i.shape)) _
  split
  · exact annotates_pure result
  · exact annotates_ofExcept _

variable {p B} in
/-- A replay takes notes if carrying out single instructions does. -/
theorem replayBy_annotates {ν : Type}
    {carryOut : Array (Option τ) → Nat → Instruction A → Action (σ × List ν) τ}
    {plain : Array (Option τ) → Nat → Instruction A → Action σ τ}
    (each : ∀ values value i, (carryOut values value i).Annotates (plain values value i))
    (last : Array (Option Nat)) (index : Nat) (is : List (Instruction A))
    (held : Array (Option τ)) :
    (p.replayBy carryOut last index is held).Annotates (p.replayBy plain last index is held) := by
  induction is generalizing index held with
  | nil => exact annotates_pure held
  | cons i rest ih =>
      rw [replayBy, replayBy]
      refine (each held _ i).bind fun result => ?_
      exact (annotates_ofExcept _).bind fun kept => ih (index + 1) kept

theorem annotates_result {ν : Type} (output : Nat) (values : Array (Option τ)) :
    Annotates (σ := σ) (ν := ν)
      (match values[output]? with
        | some (some x) => pure x
        | _ => Action.fail .outputMissing)
      (match values[output]? with
        | some (some x) => pure x
        | _ => Action.fail .outputMissing) := by
  split
  · exact annotates_pure _
  · exact annotates_ofExcept _

theorem execute_recorded (inputs : List τ) :
    (p.execute B.recorded inputs).Annotates (p.execute B inputs) := by
  refine (annotates_ofExcept (p.checkInputs B inputs)).bind fun _ => ?_
  refine (replayBy_annotates (performDeclared_recorded B) p.lastUses 0 p.instructions.toList
    _).bind fun values => ?_
  exact annotates_result p.output values

/-! ### Watched replays -/

/-- Carries out an instruction and notes the values held right after its result is stored, before
anything is released. -/
def performWatched (values : Array (Option τ)) (value : Nat) (i : Instruction A) :
    Action (σ × List (Array (Option τ))) τ := do
  let result ← onFirst (performDeclared B values value i)
  note (values.push (some result))
  return result

def replayWatched (last : Array (Option Nat)) (index : Nat) (is : List (Instruction A))
    (values : Array (Option τ)) : Action (σ × List (Array (Option τ))) (Array (Option τ)) :=
  p.replayBy (performWatched B) last index is values

def executeWatched (inputs : List τ) : Action (σ × List (Array (Option τ))) τ := do
  Action.ofExcept (p.checkInputs B inputs)
  let start := (inputs.map some).toArray
  note start
  let values ← p.replayWatched B p.lastUses 0 p.instructions.toList start
  match values[p.output]? with
  | some (some x) => return x
  | _ => Action.fail .outputMissing

/-- The values that a run holds at its start and right after each result is stored. -/
def moments (inputs : List τ) (s : σ) : List (Array (Option τ)) :=
  ((p.executeWatched B inputs).runOn (s, [])).2.2

theorem performWatched_annotates (values : Array (Option τ)) (value : Nat) (i : Instruction A) :
    (performWatched B values value i).Annotates (performDeclared B values value i) := by
  rw [← bind_pure (performDeclared B values value i)]
  exact (annotates_onFirst _).bind fun result => (annotates_pure result).note _

theorem replayWatched_annotates (last : Array (Option Nat)) (index : Nat)
    (is : List (Instruction A)) (held : Array (Option τ)) :
    (p.replayWatched B last index is held).Annotates (p.replay B last index is held) :=
  replayBy_annotates (performWatched_annotates B) last index is held

theorem executeWatched_annotates (inputs : List τ) :
    (p.executeWatched B inputs).Annotates (p.execute B inputs) := by
  refine (annotates_ofExcept (p.checkInputs B inputs)).bind fun _ => Annotates.note ?_ _
  refine (p.replayWatched_annotates B p.lastUses 0 p.instructions.toList _).bind fun values => ?_
  exact annotates_result p.output values

/-! ### Tables -/

theorem runOn_replayWatched_cons (last : Array (Option Nat)) (index : Nat) (i : Instruction A)
    (rest : List (Instruction A)) (held : Array (Option τ)) (s : σ)
    (seen : List (Array (Option τ))) :
    (p.replayWatched B last index (i :: rest) held).runOn (s, seen) =
      match (performDeclared B held (p.inputs.size + index) i).runOn s with
      | (.error h, after) => (.error h, after, seen)
      | (.ok result, after) =>
        let stored := held.push (some result)
        match release last p.output index i.op.operands stored with
        | .error h => (.error h, after, seen ++ [stored])
        | .ok kept =>
          (p.replayWatched B last (index + 1) rest kept).runOn (after, seen ++ [stored]) := by
  rw [replayWatched, replayBy, performWatched, bind_assoc]
  rcases performed : (performDeclared B held (p.inputs.size + index) i).runOn s with
    ⟨h | result, after⟩
  · rw [Action.runOn_onFirst_bind_error performed]
  · rw [Action.runOn_onFirst_bind_ok performed]
    dsimp only
    rw [bind_assoc, Action.runOn_note_bind, pure_bind]
    cases released : release last p.output index i.op.operands (held.push (some result)) with
    | error h => rfl
    | ok kept =>
        rw [Action.ofExcept_ok, pure_bind]
        rfl

theorem operands_held {held : Array (Option τ)} {value : Nat} {i : Instruction A} {s after : σ}
    {result : τ} (performed : (performDeclared B held value i).runOn s = (.ok result, after)) :
    ∀ v ∈ i.op.operands, v < held.size := by
  obtain ⟨_, _, read, -⟩ := Action.of_bind_ok performed
  intro v member
  obtain ⟨x, found⟩ := lookup_of_perform read v member
  exact (Array.getElem?_eq_some_iff.mp (lookup_eq_ok.mp found)).1

/-- Whatever the program and however the replay ends, an instruction whose result was stored has its
operands in both tables. -/
theorem operands_inside {last : Array (Option Nat)} (index : Nat) (is : List (Instruction A))
    (held : Array (Option τ)) (room : held.size + is.length ≤ last.size) (s : σ)
    (seen : List (Array (Option τ))) :
    ∃ new, ((p.replayWatched B last index is held).runOn (s, seen)).2.2 = seen ++ new ∧
      ∀ (k : Nat) values (i : Instruction A), new[k]? = some values → is[k]? = some i →
        ∀ v ∈ i.op.operands, v < last.size ∧ v < values.size := by
  -- The room in the table for the results to come pays for the entry that each instruction adds.
  induction is generalizing index held s seen with
  | nil => exact ⟨[], (List.append_nil seen).symm, by simp⟩
  | cons i rest ih =>
      rw [runOn_replayWatched_cons]
      rcases performed : (performDeclared B held (p.inputs.size + index) i).runOn s with
        ⟨h | result, after⟩
      · exact ⟨[], (List.append_nil seen).symm, by simp⟩
      · have stored : (held.push (some result)).size = held.size + 1 := Array.size_push _
        rw [List.length_cons] at room
        have inside : ∀ v ∈ i.op.operands, v < (held.push (some result)).size := by
          intro v member
          have := operands_held B performed v member
          omega
        have counted : (held.push (some result)).size ≤ last.size := by omega
        obtain ⟨kept, released, size, -⟩ := release_spec p.output index _ counted inside
        obtain ⟨new, noted, bounds⟩ :=
          ih (index + 1) kept (by omega) after (seen ++ [held.push (some result)])
        dsimp only
        rw [released]
        refine ⟨held.push (some result) :: new, ?_, fun k values i' moment found => ?_⟩
        · rw [noted, List.append_assoc, List.singleton_append]
        · cases k with
          | zero =>
              cases moment
              cases found
              intro v member
              have := inside v member
              exact ⟨by omega, this⟩
          | succ k => exact bounds k values i' moment found

/-! ### Moments -/

/-- The values held right after a replay has stored the result of the instruction at a place: what
the replay of the instructions before it leaves, with that result. -/
def Stores (last : Array (Option Nat)) (index : Nat) (is : List (Instruction A))
    (start : Array (Option τ)) (s : σ) (k : Nat) (values : Array (Option τ)) : Prop :=
  ∃ held between i result after,
    (p.replay B last index (is.take k) start).runOn s = (.ok held, between) ∧ is[k]? = some i ∧
    (performDeclared B held (p.inputs.size + (index + k)) i).runOn between = (.ok result, after) ∧
    values = held.push (some result)

section Stores

variable {p B} {last : Array (Option Nat)} {index k : Nat} {i : Instruction A}
  {rest : List (Instruction A)} {start values : Array (Option τ)} {s after : σ} {result : τ}

theorem stores_zero :
    p.Stores B last index (i :: rest) start s 0 values ↔ ∃ result after,
      (performDeclared B start (p.inputs.size + index) i).runOn s = (.ok result, after) ∧
        values = start.push (some result) := by
  constructor
  · rintro ⟨_, _, _, result, after, ⟨⟩, ⟨⟩, performed, rfl⟩
    exact ⟨result, after, performed, rfl⟩
  · rintro ⟨result, after, performed, rfl⟩
    exact ⟨start, s, i, result, after, rfl, rfl, performed, rfl⟩

theorem stores_succ :
    p.Stores B last index (i :: rest) start s (k + 1) values ↔ ∃ result after kept,
      (performDeclared B start (p.inputs.size + index) i).runOn s = (.ok result, after) ∧
        release last p.output index i.op.operands (start.push (some result)) = .ok kept ∧
          p.Stores B last (index + 1) rest kept after k values := by
  have place : index + (k + 1) = index + 1 + k := by omega
  constructor
  · rintro ⟨held, between, j, result, after, replayed, found, performed, rfl⟩
    rw [List.take_succ_cons, replay_cons] at replayed
    obtain ⟨first, middle, stored, replayed⟩ := Action.of_bind_ok replayed
    obtain ⟨kept, _, freed, replayed⟩ := Action.of_bind_ok replayed
    obtain ⟨released, rfl⟩ := Prod.mk.inj freed
    rw [place] at performed
    exact ⟨first, _, kept, stored, released, held, between, j, result, after, replayed, found,
      performed, rfl⟩
  · rintro ⟨first, middle, kept, stored, released, held, between, j, result, after, replayed,
      found, performed, rfl⟩
    rw [← place] at performed
    refine ⟨held, between, j, result, after, ?_, found, performed, rfl⟩
    rw [List.take_succ_cons, replay_cons, Action.runOn_bind_ok stored, released, Action.ofExcept_ok,
      pure_bind, replayed]

/-- Nothing is stored from an instruction on that fails. -/
theorem not_stores_of_failed {h : Halt}
    (failed : (performDeclared B start (p.inputs.size + index) i).runOn s = (.error h, after)) :
    ¬ p.Stores B last index (i :: rest) start s k values := by
  intro stores
  cases k with
  | zero =>
      obtain ⟨_, _, performed, -⟩ := stores_zero.mp stores
      cases failed.symm.trans performed
  | succ k =>
      obtain ⟨_, _, _, performed, -⟩ := stores_succ.mp stores
      cases failed.symm.trans performed

theorem stores_zero_of_performed
    (performed : (performDeclared B start (p.inputs.size + index) i).runOn s =
      (.ok result, after)) :
    p.Stores B last index (i :: rest) start s 0 values ↔ start.push (some result) = values := by
  rw [stores_zero, performed]
  constructor
  · rintro ⟨_, _, ⟨⟩, same⟩
    exact same.symm
  · exact fun same => ⟨result, after, rfl, same.symm⟩

theorem stores_succ_of_performed
    (performed : (performDeclared B start (p.inputs.size + index) i).runOn s =
      (.ok result, after)) :
    p.Stores B last index (i :: rest) start s (k + 1) values ↔
      ∃ kept, release last p.output index i.op.operands (start.push (some result)) = .ok kept ∧
        p.Stores B last (index + 1) rest kept after k values := by
  rw [stores_succ, performed]
  constructor
  · rintro ⟨_, _, kept, ⟨⟩, released, later⟩
    exact ⟨kept, released, later⟩
  · exact fun ⟨kept, released, later⟩ => ⟨result, after, kept, rfl, released, later⟩

end Stores

/-- A watched replay notes what the replay stores, and nothing else. -/
theorem exists_notes (last : Array (Option Nat)) (index : Nat) (is : List (Instruction A))
    (start : Array (Option τ)) (s : σ) (seen : List (Array (Option τ))) :
    ∃ new, ((p.replayWatched B last index is start).runOn (s, seen)).2.2 = seen ++ new ∧
      ∀ k values, new[k]? = some values ↔ p.Stores B last index is start s k values := by
  induction is generalizing index start s seen with
  | nil =>
      refine ⟨[], (List.append_nil seen).symm, fun k values => ⟨nofun, ?_⟩⟩
      rintro ⟨_, _, _, _, _, -, ⟨⟩, -⟩
  | cons i rest ih =>
      rw [runOn_replayWatched_cons]
      rcases performed : (performDeclared B start (p.inputs.size + index) i).runOn s with
        ⟨h | result, after⟩
      · exact ⟨[], (List.append_nil seen).symm, fun k values =>
          ⟨nofun, fun stores => absurd stores (not_stores_of_failed performed)⟩⟩
      · have here (values : Array (Option τ)) : some (start.push (some result)) = some values ↔
            p.Stores B last index (i :: rest) start s 0 values := by
          rw [stores_zero_of_performed performed, Option.some.injEq]
        dsimp only
        cases released : release last p.output index i.op.operands (start.push (some result)) with
        | error h =>
            refine ⟨[start.push (some result)], rfl, fun k values => ?_⟩
            cases k with
            | zero => exact here values
            | succ k =>
                rw [stores_succ_of_performed performed, released]
                exact ⟨nofun, nofun⟩
        | ok kept =>
            obtain ⟨new, noted, each⟩ :=
              ih (index + 1) kept after (seen ++ [start.push (some result)])
            refine ⟨start.push (some result) :: new, ?_, fun k values => ?_⟩
            · rw [noted, List.append_assoc, List.singleton_append]
            cases k with
            | zero => exact here values
            | succ k =>
                rw [List.getElem?_cons_succ, each, stores_succ_of_performed performed, released]
                simp only [Except.ok.injEq, exists_eq_left']

theorem moments_of_refused {inputs : List τ} {h : Halt}
    (refused : p.checkInputs B inputs = .error h) (s : σ) : p.moments B inputs s = [] := by
  rw [moments, executeWatched, refused]
  rfl

theorem moments_of_accepted {inputs : List τ} (accepted : p.checkInputs B inputs = .ok ()) (s : σ) :
    let start := (inputs.map some).toArray
    p.moments B inputs s =
      ((p.replayWatched B p.lastUses 0 p.instructions.toList start).runOn (s, [start])).2.2 := by
  intro start
  rw [moments, executeWatched, accepted, Action.ofExcept_ok, pure_bind]
  dsimp only
  rw [Action.runOn_note_bind, List.nil_append]
  rcases ran : (p.replayWatched B p.lastUses 0 p.instructions.toList start).runOn (s, [start]) with
    ⟨h | values, after⟩
  · rw [Action.runOn_bind_error ran]
  · rw [Action.runOn_bind_ok ran]
    split <;> rfl

variable {p B} in
/-- The moments of a run are the start and the values that `execute` holds each time that it has
stored a result. -/
theorem moments_spec {inputs : List τ} (accepted : p.checkInputs B inputs = .ok ()) (s : σ) :
    let start := (inputs.map some).toArray
    (p.moments B inputs s)[0]? = some start ∧
      ∀ k values, (p.moments B inputs s)[k + 1]? = some values ↔
        p.Stores B p.lastUses 0 p.instructions.toList start s k values := by
  intro start
  obtain ⟨new, noted, each⟩ := p.exists_notes B p.lastUses 0 p.instructions.toList start s [start]
  rw [p.moments_of_accepted B accepted, noted]
  exact ⟨rfl, each⟩

/-- Releases cannot be observed. Every program, on every backend and on every inputs, ends as on the
interpreter that keeps all values, and asks the same of the backend in the same order; and whenever
values are about to be released, the operands are inside both tables. -/
theorem execute_releasing (inputs : List τ) (s : σ) :
    let run := (p.execute B inputs).runOn s
    run = (p.executeRetaining B inputs).runOn s ∧
      (∃ requests,
        (p.execute B.recorded inputs).runOn (s, []) = (run.1, run.2, requests) ∧
        (p.executeRetaining B.recorded inputs).runOn (s, []) = (run.1, run.2, requests)) ∧
      (p.executeWatched B inputs).runOn (s, []) = (run.1, run.2, p.moments B inputs s) ∧
      ∀ (k : Nat) values (i : Instruction A), (p.moments B inputs s)[k + 1]? = some values →
        p.instructions[k]? = some i →
          ∀ v ∈ i.op.operands, v < p.lastUses.size ∧ v < values.size := by
  refine ⟨by rw [execute_eq_retaining], ?_, ?_, ?_⟩
  · obtain ⟨requests, ran⟩ := p.execute_recorded B inputs s
    exact ⟨requests, ran [], by rw [← execute_eq_retaining]; exact ran []⟩
  · obtain ⟨new, ran⟩ := p.executeWatched_annotates B inputs s
    rw [moments, ran, List.nil_append]
  · intro k values i moment found
    cases checked : p.checkInputs B inputs with
    | error h =>
        rw [p.moments_of_refused B checked] at moment
        cases moment
    | ok =>
        have count : inputs.length = p.inputs.size := by
          simpa using congrArg List.length (p.checkInputs_eq_ok_iff.mp checked)
        have room : (inputs.map some).toArray.size + p.instructions.toList.length ≤
            p.lastUses.size := by
          simp [numValues, count]
        obtain ⟨new, noted, bounds⟩ := p.operands_inside B 0 p.instructions.toList
          (inputs.map some).toArray room s [(inputs.map some).toArray]
        rw [p.moments_of_accepted B checked, noted] at moment
        exact bounds k values i moment (by rw [Array.getElem?_toList, found])

end Program

end Diffusion
