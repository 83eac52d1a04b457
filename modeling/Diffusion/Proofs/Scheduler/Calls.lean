import Diffusion.Proofs.Scheduler.Moves
import Diffusion.Sampling

/-!
Calls on one scheduler, one after the other.

A session makes calls in order, each on what the last one left, and collects the replies; a call
that fails ends neither the session nor the life of the scheduler. Main statements: `moves_run`, by
which a whole loop only makes moves, and `follows_session`, by which everything that a session may
leave of a scheduler comes about by plans and moves.
-/

namespace Diffusion

variable {A : Arithmetic} {σ τ : Type}

namespace Scheduler

/-- A call on a scheduler. Every call that works on tensors is given a backend of its own. -/
inductive Call (A : Arithmetic) (σ τ : Type) where
  | plan (steps : Nat)
  | scaleInput (B : Backend A σ τ) (sample : τ) (timestep : A.Elem)
  | step (B : Backend A σ τ) (output : τ) (timestep : A.Elem) (sample : τ)
  | run (B : Backend A σ τ) (guidance : A.Elem) (latents conditioning : τ)

/-- What a caller learns: the answer to a call, which is no tensor if a pass was planned, how many
timesteps a loop completed, and the timesteps and the deviation that the scheduler has now. -/
structure Reply (A : Arithmetic) (τ : Type) where
  answer : Except Halt (Option τ)
  completed : Nat
  timesteps : List A.Elem
  deviation : A.Elem

/-- Makes a call, which answers, completes some timesteps and leaves new states. -/
def Call.make : Call A σ τ → σ × Scheduler A τ →
    Except Halt (Option τ) × Nat × σ × Scheduler A τ
  | plan steps, (w, s) =>
    let (answer, s) := (Scheduler.plan steps).runOn s
    (answer.map fun _ => none, 0, w, s)
  | scaleInput B sample timestep, state =>
    let (answer, state) := (Scheduler.scaleInput B sample timestep).runOn state
    (answer.map some, 0, state)
  | step B output timestep sample, state =>
    let (answer, state) := (Scheduler.step B output timestep sample).runOn state
    (answer.map some, 0, state)
  | run B guidance latents conditioning, (w, s) =>
    let ended := Sampling.outcome B guidance latents conditioning w s
    (ended.answer.map some, ended.completed, ended.backend, ended.scheduler)

/-- Makes calls in order, whatever they answer. -/
def session : List (Call A σ τ) → σ × Scheduler A τ → List (Reply A τ) × σ × Scheduler A τ
  | [], state => ([], state)
  | call :: rest, state =>
    let (answer, completed, w, s) := call.make state
    let (replies, state) := session rest (w, s)
    (⟨answer, completed, s.timesteps, s.initialDeviation⟩ :: replies, state)

/-- What may become of a scheduler in one call. -/
inductive Follows : Scheduler A τ → Scheduler A τ → Prop where
  | planned (s : Scheduler A τ) (steps : Nat) : Follows s ((Scheduler.plan steps).runOn s).2
  | moved {s s' : Scheduler A τ} (moves : s.Moves s') : Follows s s'

end Scheduler

open Relation (ReflTransGen)

namespace Sampling

variable (B : Backend A σ τ) (guidance : A.Elem) (conditioning : τ) (start : Scheduler A τ)

theorem keeps_scaleInput (sample : τ) (timestep : A.Elem) :
    (Scheduler.scaleInput B sample timestep).Keeps fun state =>
      ReflTransGen Scheduler.Moves start state.2 :=
  fun (w, s) moves => moves.tail (Scheduler.moves_scaleInput B sample timestep w s)

theorem keeps_step (output sample : τ) (timestep : A.Elem) :
    (Scheduler.step B output timestep sample).Keeps fun state =>
      ReflTransGen Scheduler.Moves start state.2 :=
  fun (w, s) moves => moves.tail (Scheduler.moves_step B output timestep sample w s)

theorem keeps_denoise (latents : τ) (timestep : A.Elem) :
    (denoise B guidance conditioning latents timestep).Keeps fun state =>
      ReflTransGen Scheduler.Moves start state.2 := by
  refine .bind ?_ fun guided => keeps_step B start guided latents timestep
  refine .bind (Action.keeps_onFirst _) fun doubled => ?_
  refine .bind (keeps_scaleInput B start doubled timestep) fun input => ?_
  refine .bind (Action.keeps_onFirst _) fun prediction => ?_
  exact .bind (Action.keeps_onFirst _) fun halves => Action.keeps_onFirst _

theorem keeps_denoiseAll (timesteps : List A.Elem) (latents : τ) :
    (denoiseAll B guidance conditioning timesteps latents).Keeps fun state =>
      ReflTransGen Scheduler.Moves start state.1.2 := by
  induction timesteps generalizing latents with
  | nil => exact Action.keeps_pure latents
  | cons timestep rest ih =>
      refine .bind (keeps_denoise B guidance conditioning start latents timestep).onFirst
        fun next => ?_
      exact .bind (Action.keeps_onSecond (P := fun state : σ × Scheduler A τ =>
        ReflTransGen Scheduler.Moves start state.2) _) fun _ => ih next

/-- A whole loop only makes moves, one after the other. -/
theorem moves_run (latents : τ) (w : σ) :
    ReflTransGen Scheduler.Moves start
      (outcome B guidance latents conditioning w start).scheduler := by
  have keeps : (run B guidance latents conditioning).Keeps fun state =>
      ReflTransGen Scheduler.Moves start state.1.2 := by
    refine .bind (fun _ moves => moves) fun state => ?_
    dsimp only
    split
    · exact Action.keeps_ofExcept _
    · refine .bind (Action.keeps_ofExcept _) fun _ => ?_
      exact .bind (Action.Keeps.onFirst (Action.keeps_onFirst _))
        fun noisy => keeps_denoiseAll B guidance conditioning start _ noisy
  exact keeps ((w, start), 0) .refl

end Sampling

namespace Scheduler

theorem follows_make (call : Call A σ τ) (w : σ) (s : Scheduler A τ) :
    ReflTransGen Follows s (call.make (w, s)).2.2.2 := by
  cases call with
  | plan steps => exact .single (.planned s steps)
  | scaleInput B sample timestep =>
      exact .single (.moved (moves_scaleInput B sample timestep w s))
  | step B output timestep sample =>
      exact .single (.moved (moves_step B output timestep sample w s))
  | run B guidance latents conditioning =>
      exact Relation.ReflTransGen.mono (fun _ _ moves => Follows.moved moves) _ _
        (Sampling.moves_run B guidance conditioning s latents w)

theorem follows_session (calls : List (Call A σ τ)) (w : σ) (s : Scheduler A τ) :
    ReflTransGen Follows s (session calls (w, s)).2.2 := by
  induction calls generalizing w s with
  | nil => exact .refl
  | cons call rest ih => exact (follows_make call w s).trans (ih _ _)

/-- What every plan and every move keeps is kept by a session. -/
theorem session_keeps {P : Scheduler A τ → Prop}
    (planned : ∀ s steps, P s → P ((plan steps).runOn s).2)
    (moved : ∀ s s', s.Moves s' → P s → P s') (calls : List (Call A σ τ)) (w : σ)
    {s : Scheduler A τ} (holds : P s) : P (session calls (w, s)).2.2 := by
  have follows := follows_session calls w s
  generalize (session calls (w, s)).2.2 = left at follows ⊢
  induction follows with
  | refl => exact holds
  | tail _ last ih =>
      cases last with
      | planned steps => exact planned _ steps ih
      | moved moves => exact moved _ _ moves ih

end Scheduler

end Diffusion
