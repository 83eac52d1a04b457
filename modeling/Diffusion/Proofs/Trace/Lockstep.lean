import Diffusion.Proofs.Arithmetic.Whole
import Diffusion.Proofs.Backend.Calls
import Diffusion.Proofs.Program.Soundness

/-!
Recording and computing accept the same calls.

A client makes calls one after the other, each on what it has by then, and goes on after a call that
failed. It sees shapes and errors. Main statement: `converse_alike`, by which it sees the same
whether it records or computes, as long as every concatenation has a layout.
-/

namespace Diffusion

open Backend (tracer eager)

variable {A : Arithmetic} {σ τ η ξ ν : Type}

namespace Backend

namespace Call

/-- The call on the handles at some positions. -/
def resolve (known : List τ) : Call A Nat → Option (Call A τ)
  | scale x factor => return scale (← known[x]?) factor
  | add x y => return add (← known[x]?) (← known[y]?)
  | sub x y => return sub (← known[x]?) (← known[y]?)
  | concat x y => return concat (← known[x]?) (← known[y]?)
  | split x => return split (← known[x]?)
  | noise x seed => return noise (← known[x]?) seed
  | predict sample timestep conditioning =>
    return predict (← known[sample]?) timestep (← known[conditioning]?)

theorem map_resolve (f : τ → η) (known : List τ) (call : Call A Nat) :
    (call.resolve known).map (map f) = call.resolve (known.map f) := by
  cases call with
  | scale x | split x | noise x =>
      simp only [resolve, List.getElem?_map]
      cases known[x]? <;> rfl
  | add x y | sub x y | concat x y | predict x _ y =>
      simp only [resolve, List.getElem?_map]
      cases known[x]? <;> cases known[y]? <;> rfl

end Call

structure Exchange (A : Arithmetic) (η : Type) where
  call : Call A η
  answer : Except Halt (List η)

def Exchange.map (f : η → ξ) (exchange : Exchange A η) : Exchange A ξ where
  call := exchange.call.map f
  answer := exchange.answer.map (List.map f)

/-- Makes calls in order on handles that are known by their position: first those that the client
has from the beginning, then all that it was answered with. A call on a position that is not known
by then cannot be made and is passed over. -/
def converse (B : Backend A σ τ) : List (Call A Nat) → List τ × σ → List (Exchange A τ) × List τ × σ
  | [], state => ([], state)
  | call :: rest, (known, w) =>
    match call.resolve known with
    | none => converse B rest (known, w)
    | some call =>
      let (answer, w) := (call.make B).runOn w
      let (exchanges, state) := converse B rest (known ++ answer.toOption.getD [], w)
      (⟨call, answer⟩ :: exchanges, state)

/-- What shapes alone say of calls in order. -/
def judged : List (Call A Nat) → List Shape → List (Exchange A Shape)
  | [], _ => []
  | call :: rest, known =>
    match call.resolve known with
    | none => judged rest known
    | some call => ⟨call, call.verdict⟩ :: judged rest (known ++ call.verdict.toOption.getD [])

theorem map_getD_toOption (f : η → ξ) (answer : Except Halt (List η)) :
    (answer.toOption.getD []).map f = (answer.map (List.map f)).toOption.getD [] := by
  cases answer <;> rfl

/-- A backend that follows the verdict on every call of some kind follows it throughout. -/
theorem converse_judged {B : Backend A σ τ} {P : Call A Shape → Prop}
    (follows : ∀ (call : Call A τ) w, P (call.map B.shape) →
      ((call.make B).runOn w).1.map (List.map B.shape) = (call.map B.shape).verdict)
    {calls : List (Call A Nat)} {known : List τ}
    (allowed : ∀ exchange ∈ judged calls (known.map B.shape), P exchange.call) (w : σ) :
    (converse B calls (known, w)).1.map (Exchange.map B.shape) =
      judged calls (known.map B.shape) := by
  induction calls generalizing known w with
  | nil => rfl
  | cons call rest ih =>
      have resolved := call.map_resolve B.shape known
      rw [judged, ← resolved] at allowed ⊢
      rw [converse]
      cases found : call.resolve known with
      | none =>
          rw [found] at allowed
          exact ih allowed w
      | some call =>
          rw [found] at allowed
          obtain ⟨here, later⟩ := List.forall_mem_cons.mp allowed
          have answer := follows call w here
          have known' : (known ++ ((call.make B).runOn w).1.toOption.getD []).map B.shape =
              known.map B.shape ++ (call.map B.shape).verdict.toOption.getD [] := by
            rw [List.map_append, map_getD_toOption, answer]
          dsimp only [Option.map_some]
          rw [← known'] at later ⊢
          rw [List.map_cons, ih later]
          exact congrArg (· :: _) (congrArg (Exchange.mk _) answer)

variable {values : List Value} {tensors : List (Tensor A.Elem)}

/-- With a network that obeys, a client learns the same from recording and from computing on tensors
of the same shapes: which calls succeed, the shapes of what they are answered with, and the errors
of the others. -/
theorem converse_alike {network : Network A ν} (obedient : network.Obedient)
    (alike : values.map (·.shape) = tensors.map (·.shape)) (calls : List (Call A Nat))
    (r : Recording A) (state : ν)
    (layouts : ∀ exchange ∈ (converse (tracer A) calls (values, r)).1,
      (exchange.call.map (·.shape)).HasLayout) :
    (converse (tracer A) calls (values, r)).1.map (Exchange.map (·.shape)) =
      (converse (eager (some network)) calls (tensors, state)).1.map (Exchange.map (·.shape)) := by
  have traced : (converse (tracer A) calls (values, r)).1.map (Exchange.map (·.shape)) =
      judged calls (values.map (·.shape)) :=
    converse_judged (P := fun _ => True) (fun call r _ => call.answer_make_tracer r)
      (fun _ _ => trivial) r
  have computed : (converse (eager (some network)) calls (tensors, state)).1.map
      (Exchange.map (·.shape)) = judged calls (tensors.map (·.shape)) := by
    refine converse_judged (P := Call.HasLayout)
      (fun call state layout => call.answer_make_eager obedient layout state) ?_ state
    change ∀ exchange ∈ judged calls (tensors.map (·.shape)), exchange.call.HasLayout
    rw [← alike, ← traced]
    exact List.forall_mem_map.mpr layouts
  rw [traced, computed, alike]

def echo : Network whole Unit := .ofFunction fun sample _ _ => .ok sample

/-- What the calls of a client were answered with: shapes, or nothing for a call that failed. -/
def answers (shape : η → Shape) (exchanges : List (Exchange A η)) : List (Option (List Shape)) :=
  exchanges.map fun exchange => exchange.answer.toOption.map (List.map shape)

/-- Calls from a batch of two rows. The second and the last one fail. -/
def tries : List (Call whole Nat) :=
  [.split 0, .add 0 1, .concat 0 1, .predict 0 (7 : Int) 0, .predict 3 (7 : Int) 0]

theorem converse_alike_tries :
    let traced := (converse (tracer whole) tries ([⟨0, [2]⟩], ⟨#[⟨"x", [2]⟩], #[]⟩)).1
    answers (·.shape) traced = [some [[1], [1]], none, some [[3]], some [[2]], none] ∧
      traced.map (Exchange.map (·.shape)) =
        (converse (eager (some echo)) tries ([.fill [2] 5], ())).1.map (Exchange.map (·.shape)) :=
  ⟨by decide, converse_alike Program.obedient_echo rfl tries _ () (by decide)⟩

/-- Nothing to compute, but too large for a layout: laying an empty batch of many rows after itself
is recorded and not computed, although the rows can still be counted. -/
theorem converse_unlike :
    let huge : Shape := [2 ^ 61, 2, 0]
    echo.Obedient ∧ 2 ^ 61 + 2 ^ 61 < spanLimit ∧
      answers (·.shape) (converse (tracer whole) [.concat 0 0]
        ([⟨0, huge⟩], ⟨#[⟨"x", huge⟩], #[]⟩)).1 = [some [[2 ^ 62, 2, 0]]] ∧
      answers (·.shape) (converse (eager (some echo)) [.concat 0 0] ([.fill huge 0], ())).1 =
        [none] :=
  ⟨Program.obedient_echo, by decide +kernel⟩

end Backend

end Diffusion
