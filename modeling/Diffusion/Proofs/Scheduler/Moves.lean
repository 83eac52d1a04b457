import Diffusion.Proofs.Action.Keeping
import Diffusion.Proofs.Scheduler.Steps
import Mathlib.Logic.Relation

/-!
What is left of a scheduler when a call on it ends, well or not.

`Moves` lists all that scaling an input or making a step may change: a place is found, it moves on
once the step has succeeded, something is remembered. Main statements: `Scheduler.moves_scaleInput`
and `Scheduler.moves_step`.
-/

namespace Diffusion

variable {A : Arithmetic} {σ τ : Type}

namespace SigmaTrack

/-- What may become of a pass: it stays as it is, its place is found, or it moves on from its place,
in front of another sigma. -/
inductive Moves (s : SigmaTrack A) : SigmaTrack A → Prop where
  | stays : Moves s s
  | placed {timestep : A.Elem} {i : Nat} {placed : SigmaTrack A}
      (located : s.located timestep = .ok (i, placed)) : Moves s placed
  | moved {timestep : A.Elem} {i : Nat} {placed : SigmaTrack A}
      (located : s.located timestep = .ok (i, placed)) (inside : i + 1 < s.sigmas.size) :
      Moves s placed.moved

theorem eq_placed {s placed : SigmaTrack A} {timestep : A.Elem} {i : Nat}
    (located : s.located timestep = .ok (i, placed)) : placed = { s with place := some i } := by
  unfold SigmaTrack.located at located
  split at located
  · rename_i place
    cases located
    rw [← place]
  · cases found : indexForTimestep s.timesteps timestep <;> rw [found] at located <;> cases located
    rfl

theorem runOn_locate_bind {α : Type} (s : SigmaTrack A) (timestep : A.Elem)
    (f : Nat → Action (σ × SigmaTrack A) α) (w : σ) :
    (Action.onSecond (locate timestep) >>= f).runOn (w, s) =
      match s.located timestep with
      | .ok (i, placed) => (f i).runOn (w, placed)
      | .error h => (.error h, w, s) := by
  have ran : (Action.onSecond (locate timestep) : Action (σ × SigmaTrack A) Nat).runOn (w, s) =
      (((locate timestep).runOn s).1, w, ((locate timestep).runOn s).2) := rfl
  rw [Action.runOn_bind, ran, runOn_locate]
  rcases s.located timestep with _ | ⟨_, _⟩ <;> rfl

theorem runOn_scaleInput (B : Backend A σ τ) (s : SigmaTrack A) (sample : τ) (timestep : A.Elem)
    (w : σ) :
    (scaleInput B sample timestep).runOn (w, s) =
      match s.located timestep with
      | .error h => (.error h, w, s)
      | .ok (i, placed) =>
        match placed.sigma i with
        | .error h => (.error h, w, placed)
        | .ok sigma =>
          let ran := (B.scale sample (A.narrow (1 / A.sqrt (sigma * sigma + 1)))).runOn w
          (ran.1, ran.2, placed) := by
  rw [scaleInput, runOn_locate_bind]
  rcases s.located timestep with _ | ⟨i, placed⟩
  · rfl
  · dsimp only
    rw [Action.runOn_get_bind, Action.runOn_ofExcept_bind]
    cases placed.sigma i <;> rfl

theorem moves_scaleInput (B : Backend A σ τ) (s : SigmaTrack A) (sample : τ) (timestep : A.Elem)
    (w : σ) : s.Moves ((scaleInput B sample timestep).runOn (w, s)).2.2 := by
  rw [runOn_scaleInput]
  rcases located : s.located timestep with _ | ⟨i, placed⟩
  · exact .stays
  · dsimp only
    cases placed.sigma i <;> exact .placed located

/-- A pass moves on from its place only if a sigma follows there. -/
theorem Moves.of_located {s placed : SigmaTrack A} {timestep : A.Elem} {i : Nat}
    (located : s.located timestep = .ok (i, placed)) (inside : i + 1 < placed.sigmas.size) :
    s.Moves placed.moved := by
  rw [eq_placed located] at inside
  exact .moved located inside

theorem lt_of_sigma {s : SigmaTrack A} {i : Nat} {sigma : A.Wide} (found : s.sigma i = .ok sigma) :
    i < s.sigmas.size :=
  (Array.getElem?_eq_some_iff.mp (Halt.entry_eq_ok_iff.mp found)).1

/-- A computation that begins with the sigma of a place and the next one succeeds only if there is a
next one. -/
theorem inside_of_sigmas {s : SigmaTrack A} {i : Nat} {f : A.Wide → A.Wide → Action σ τ}
    {previous : τ} {w w' : σ}
    (ran : (do
      let sigma ← Action.ofExcept (s.sigma i)
      let sigmaNext ← Action.ofExcept (s.sigma (i + 1))
      f sigma sigmaNext).runOn w = (.ok previous, w')) : i + 1 < s.sigmas.size := by
  obtain ⟨_, _, -, ran⟩ := Action.of_bind_ok ran
  obtain ⟨_, _, next, -⟩ := Action.of_bind_ok ran
  exact lt_of_sigma (congrArg Prod.fst next)

/-- A step that computes at the place of the pass and moves on if that succeeds. -/
def stepBy (advance : SigmaTrack A → Nat → Action σ τ) (timestep : A.Elem) :
    Action (σ × SigmaTrack A) τ := do
  let i ← Action.onSecond (locate timestep)
  let s ← Action.onSecond get
  let previous ← Action.onFirst (advance s i)
  Action.onSecond (set s.moved)
  return previous

theorem runOn_stepBy (advance : SigmaTrack A → Nat → Action σ τ) (s : SigmaTrack A)
    (timestep : A.Elem) (w : σ) :
    (stepBy advance timestep).runOn (w, s) =
      match s.located timestep with
      | .error h => (.error h, w, s)
      | .ok (i, placed) =>
        match (advance placed i).runOn w with
        | (.ok previous, w) => (.ok previous, w, placed.moved)
        | (.error h, w) => (.error h, w, placed) := by
  rw [stepBy, runOn_locate_bind]
  rcases s.located timestep with _ | ⟨i, placed⟩
  · rfl
  · dsimp only
    rw [Action.runOn_get_bind, Action.runOn_onFirst_bind]
    rcases (advance placed i).runOn w with ⟨_ | _, _⟩ <;> rfl

theorem moves_stepBy (advance : SigmaTrack A → Nat → Action σ τ)
    (inside : ∀ placed i previous w w', (advance placed i).runOn w = (.ok previous, w') →
      i + 1 < placed.sigmas.size)
    (s : SigmaTrack A) (timestep : A.Elem) (w : σ) :
    s.Moves ((stepBy advance timestep).runOn (w, s)).2.2 := by
  rw [runOn_stepBy]
  rcases located : s.located timestep with _ | ⟨i, placed⟩
  · exact .stays
  · dsimp only
    rcases ran : (advance placed i).runOn w with ⟨_ | previous, w'⟩
    · exact .placed located
    · exact .of_located located (inside placed i previous w w' ran)

end SigmaTrack

/-! ### Steps of each kind -/

theorem Ddpm.runOn_step (B : Backend A σ τ) (s : Ddpm A) (output : τ) (timestep : A.Elem)
    (sample : τ) (w : σ) :
    (Ddpm.step B output timestep sample).runOn (w, s) =
      match (s.advance B output timestep sample).runOn w with
      | (.ok previous, w) => (.ok previous, w, { s with steps := s.steps + 1 })
      | (.error h, w) => (.error h, w, s) := by
  rw [Ddpm.step, Action.runOn_get_bind, Action.runOn_onFirst_bind]
  rcases (s.advance B output timestep sample).runOn w with ⟨_ | _, _⟩ <;> rfl

theorem Euler.moves_step (B : Backend A σ τ) (output : τ) (timestep : A.Elem) (sample : τ) (w : σ)
    (s : SigmaTrack A) : s.Moves ((Euler.step B output timestep sample).runOn (w, s)).2.2 := by
  have steps : Euler.step B output timestep sample =
      SigmaTrack.stepBy (fun s i => Euler.advance B s i output sample) timestep := rfl
  rw [steps]
  exact SigmaTrack.moves_stepBy _ (fun _ _ _ _ _ => SigmaTrack.inside_of_sigmas) s timestep w

theorem EulerAncestral.moves_step (B : Backend A σ τ) (seed : UInt64) (output : τ)
    (timestep : A.Elem) (sample : τ) (w : σ) (s : SigmaTrack A) :
    s.Moves ((EulerAncestral.step B seed output timestep sample).runOn (w, s)).2.2 := by
  have steps : EulerAncestral.step B seed output timestep sample =
      SigmaTrack.stepBy (fun s i => EulerAncestral.advance B seed s i output sample) timestep := rfl
  rw [steps]
  exact SigmaTrack.moves_stepBy _ (fun _ _ _ _ _ => SigmaTrack.inside_of_sigmas) s timestep w

namespace LinearMultistep

theorem runOn_step (B : Backend A σ τ) (s : LinearMultistep A τ) (output : τ)
    (timestep : A.Elem) (sample : τ) (w : σ) :
    (LinearMultistep.step B output timestep sample).runOn (w, s) =
      match s.track.located timestep with
      | .error h => (.error h, w, s)
      | .ok (i, track) =>
        match track.sigma i with
        | .error h => (.error h, w, { s with track })
        | .ok sigma =>
          match (track.derivative B sigma output sample).runOn w with
          | (.error h, w) => (.error h, w, { s with track })
          | (.ok derivative, w) =>
            let s := remember { s with track } derivative
            match (s.advance B i sample).runOn w with
            | (.ok previous, w) => (.ok previous, w, { s with track := track.moved })
            | (.error h, w) => (.error h, w, s) := by
  have ran : (onTrack (Action.onSecond (SigmaTrack.locate timestep)) :
      Action (σ × LinearMultistep A τ) Nat).runOn (w, s) =
        (((SigmaTrack.locate timestep).runOn s.track).1, w,
          { s with track := ((SigmaTrack.locate timestep).runOn s.track).2 }) := rfl
  rw [LinearMultistep.step, Action.runOn_bind, ran, SigmaTrack.runOn_locate]
  rcases s.track.located timestep with _ | ⟨i, track⟩
  · rfl
  · dsimp only
    rw [Action.runOn_get_bind, Action.runOn_ofExcept_bind]
    cases track.sigma i with
    | error h => rfl
    | ok sigma =>
        dsimp only
        rw [Action.runOn_onFirst_bind]
        rcases (track.derivative B sigma output sample).runOn w with ⟨_ | derivative, w⟩
        · rfl
        · dsimp only
          rw [Action.runOn_set_bind, Action.runOn_onFirst_bind]
          rcases ((remember { s with track } derivative).advance B i sample).runOn w with
            ⟨_ | _, _⟩ <;> rfl

/-- The sum has a term for the newest derivative, whose weight reads the next sigma. -/
theorem inside_of_advance {B : Backend A σ τ} {s : LinearMultistep A τ} {i : Nat}
    {sample previous : τ} {w w' : σ} (some : s.derivatives ≠ [])
    (ran : (s.advance B i sample).runOn w = (.ok previous, w')) :
    i + 1 < s.track.sigmas.size := by
  obtain ⟨weights, _, weighed, -⟩ := Action.of_bind_ok ran
  obtain ⟨order, counted⟩ := exists_order i some
  have computed : ((List.range (order + 1)).mapM fun k =>
      A.narrow <$> coefficient s.track.sigmas (order + 1) i k) = .ok weights := by
    rw [← counted]
    exact congrArg Prod.fst weighed
  rw [List.range_succ_eq_map] at computed
  obtain ⟨_, _, first, -⟩ := Halt.of_mapM_cons computed
  obtain ⟨weight, first⟩ : ∃ weight, coefficient s.track.sigmas (order + 1) i 0 = .ok weight := by
    cases found : coefficient s.track.sigmas (order + 1) i 0 with
    | error h => rw [found] at first; cases first
    | ok weight => exact ⟨weight, rfl⟩
  obtain ⟨_, -, rest⟩ := Halt.bind_eq_ok_iff.mp first
  obtain ⟨_, next, -⟩ := Halt.bind_eq_ok_iff.mp rest
  exact SigmaTrack.lt_of_sigma next

end LinearMultistep

/-! ### Every kind -/

namespace Scheduler

/-- What may become of a scheduler in a call that plans no new pass. -/
inductive Moves : Scheduler A τ → Scheduler A τ → Prop where
  | stays (s : Scheduler A τ) : Moves s s
  | pndm (s : Pndm A τ) (output : τ) : Moves (.pndm s) (.pndm (s.remember output))
  | ddpm (s : Ddpm A) : Moves (.ddpm s) (.ddpm { s with steps := s.steps + 1 })
  | euler {s : Euler A} {track : SigmaTrack A} (moves : s.track.Moves track) :
      Moves (.euler s) (.euler ⟨track⟩)
  | eulerAncestral {s : EulerAncestral A} {track : SigmaTrack A} (moves : s.track.Moves track) :
      Moves (.eulerAncestral s) (.eulerAncestral { s with track })
  | linearMultistep {s : LinearMultistep A τ} {track : SigmaTrack A} {derivatives : List τ}
      (moves : s.track.Moves track)
      (remembered : derivatives = s.derivatives ∨
        ∃ newest, derivatives = (newest :: s.derivatives).take LinearMultistep.memory) :
      Moves (.linearMultistep s) (.linearMultistep ⟨track, derivatives⟩)

theorem moves_scaleInput (B : Backend A σ τ) (sample : τ) (timestep : A.Elem) (w : σ)
    (s : Scheduler A τ) : s.Moves ((scaleInput B sample timestep).runOn (w, s)).2.2 := by
  cases s with
  | pndm | ddim | ddpm => exact .stays _
  | euler s => exact .euler (SigmaTrack.moves_scaleInput B s.track sample timestep w)
  | eulerAncestral s =>
      exact .eulerAncestral (SigmaTrack.moves_scaleInput B s.track sample timestep w)
  | linearMultistep s =>
      exact .linearMultistep (SigmaTrack.moves_scaleInput B s.track sample timestep w) (.inl rfl)

theorem moves_step (B : Backend A σ τ) (output : τ) (timestep : A.Elem) (sample : τ) (w : σ)
    (s : Scheduler A τ) : s.Moves ((step B output timestep sample).runOn (w, s)).2.2 := by
  cases s with
  | pndm s => exact .pndm s output
  | ddim s => exact .stays _
  | ddpm s =>
      change Moves _ (.ddpm ((Ddpm.step B output timestep sample).runOn (w, s)).2.2)
      rw [Ddpm.runOn_step]
      rcases (s.advance B output timestep sample).runOn w with ⟨_ | _, _⟩
      · exact .stays _
      · exact .ddpm s
  | euler s => exact .euler (Euler.moves_step B output timestep sample w s.track)
  | eulerAncestral s =>
      exact .eulerAncestral (EulerAncestral.moves_step B s.seed output timestep sample w s.track)
  | linearMultistep s =>
      change Moves _ (.linearMultistep
        ((LinearMultistep.step B output timestep sample).runOn (w, s)).2.2)
      rw [LinearMultistep.runOn_step]
      rcases located : s.track.located timestep with _ | ⟨i, track⟩
      · exact .stays _
      · dsimp only
        cases track.sigma i with
        | error h => exact .linearMultistep (.placed located) (.inl rfl)
        | ok sigma =>
            dsimp only
            rcases (track.derivative B sigma output sample).runOn w with ⟨_ | derivative, between⟩
            · exact .linearMultistep (.placed located) (.inl rfl)
            · dsimp only
              rcases ran : ((LinearMultistep.remember { s with track } derivative).advance B i
                sample).runOn between with ⟨_ | _, _⟩
              · exact .linearMultistep (.placed located) (.inr ⟨derivative, rfl⟩)
              · refine .linearMultistep (.of_located located ?_) (.inr ⟨derivative, rfl⟩)
                exact LinearMultistep.inside_of_advance (List.cons_ne_nil _ _) ran

end Scheduler

end Diffusion
