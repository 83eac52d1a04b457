import Diffusion.Proofs.Action
import Diffusion.Scheduler

/-!
What a plan does to a scheduler.

`Plans` lists what an accepted plan leaves: new timesteps, and nothing of the pass before. Main
statements: `plan_cases`, by which a plan is accepted in this way or refused, and `plan_keeps`, by
which a property is kept by plans if it is kept in these cases.
-/

namespace Diffusion.Scheduler

variable {A : Arithmetic} {τ S R : Type}

/-- The scheduler that an accepted plan of some steps leaves. -/
inductive Plans (steps : Nat) : Scheduler A τ → Scheduler A τ → Prop where
  | pndm {s : Pndm A τ} {line : Timeline A} (planned : s.line.plan steps = .ok line) :
      Plans steps (.pndm s) (.pndm ⟨line, []⟩)
  | ddim {s : Ddim A} {line : Timeline A} (planned : s.line.plan steps = .ok line) :
      Plans steps (.ddim s) (.ddim ⟨line⟩)
  | ddpm {s : Ddpm A} {line : Timeline A} (planned : s.line.plan steps = .ok line) :
      Plans steps (.ddpm s) (.ddpm ⟨line, s.seed, 0⟩)
  | euler {s : Euler A} {track : SigmaTrack A} (planned : s.track.plan steps = .ok track) :
      Plans steps (.euler s) (.euler ⟨track⟩)
  | eulerAncestral {s : EulerAncestral A} {track : SigmaTrack A}
      (planned : s.track.plan steps = .ok track) :
      Plans steps (.eulerAncestral s) (.eulerAncestral ⟨track, s.seed⟩)
  | linearMultistep {s : LinearMultistep A τ} {track : SigmaTrack A}
      (planned : s.track.plan steps = .ok track) :
      Plans steps (.linearMultistep s) (.linearMultistep ⟨track, []⟩)

/-- What is left of a scheduler whose plan was refused: the linear multistep method has forgotten
its derivatives by then. -/
def withoutDerivatives : Scheduler A τ → Scheduler A τ
  | linearMultistep s => linearMultistep { s with derivatives := [] }
  | s => s

theorem replan_ok (wrap : S → Scheduler A τ) (s : S) (put : R → S) {part : Except Halt R}
    {planned : R} (accepted : part = .ok planned) :
    replan wrap s (part >>= fun planned => pure (put planned)) = (.ok (), wrap (put planned)) := by
  rw [accepted]
  rfl

theorem replan_cases (wrap : S → Scheduler A τ) (s : S) (part : Except Halt R) (put : R → S) :
    (∃ planned, part = .ok planned) ∨
      ∃ h, replan wrap s (part >>= fun planned => pure (put planned)) = (.error h, wrap s) := by
  cases part with
  | error h => exact .inr ⟨h, rfl⟩
  | ok planned => exact .inl ⟨planned, rfl⟩

/-- A plan of the linear multistep method forgets what was remembered, taken or refused. -/
theorem runOn_plan_linearMultistep (track : SigmaTrack A) (derivatives : List τ) (steps : Nat) :
    (plan steps).runOn (linearMultistep ⟨track, derivatives⟩) =
      replan linearMultistep (LinearMultistep.mk track [])
        (track.plan steps >>= fun track => pure ⟨track, []⟩) := by
  change replan linearMultistep (LinearMultistep.plan ⟨track, derivatives⟩ steps).2
    (LinearMultistep.plan ⟨track, derivatives⟩ steps).1 = _
  unfold LinearMultistep.plan
  cases track.plan steps <;> rfl

theorem runOn_plan {s planned : Scheduler A τ} {steps : Nat} (plans : s.Plans steps planned) :
    (plan steps).runOn s = (.ok (), planned) := by
  cases plans with
  | @pndm s _ planned => exact replan_ok pndm s (⟨·, []⟩) planned
  | @ddim s _ planned => exact replan_ok ddim s (⟨·⟩) planned
  | @ddpm s _ planned => exact replan_ok ddpm s (⟨·, s.seed, 0⟩) planned
  | @euler s _ planned => exact replan_ok euler s (⟨·⟩) planned
  | @eulerAncestral s _ planned => exact replan_ok eulerAncestral s (⟨·, s.seed⟩) planned
  | @linearMultistep s _ planned =>
      exact (runOn_plan_linearMultistep s.track s.derivatives steps).trans
        (replan_ok linearMultistep ⟨s.track, []⟩ (⟨·, []⟩) planned)

theorem plan_cases (s : Scheduler A τ) (steps : Nat) :
    (∃ planned, s.Plans steps planned) ∨
      ∃ h, (plan steps).runOn s = (.error h, s.withoutDerivatives) := by
  cases s with
  | pndm s =>
      exact (replan_cases pndm s (s.line.plan steps) (⟨·, []⟩)).imp_left
        fun ⟨_, planned⟩ => ⟨_, .pndm planned⟩
  | ddim s =>
      exact (replan_cases ddim s (s.line.plan steps) (⟨·⟩)).imp_left
        fun ⟨_, planned⟩ => ⟨_, .ddim planned⟩
  | ddpm s =>
      exact (replan_cases ddpm s (s.line.plan steps) (⟨·, s.seed, 0⟩)).imp_left
        fun ⟨_, planned⟩ => ⟨_, .ddpm planned⟩
  | euler s =>
      exact (replan_cases euler s (s.track.plan steps) (⟨·⟩)).imp_left
        fun ⟨_, planned⟩ => ⟨_, .euler planned⟩
  | eulerAncestral s =>
      exact (replan_cases eulerAncestral s (s.track.plan steps) (⟨·, s.seed⟩)).imp_left
        fun ⟨_, planned⟩ => ⟨_, .eulerAncestral planned⟩
  | linearMultistep s =>
      rcases replan_cases linearMultistep ⟨s.track, []⟩ (s.track.plan steps) (⟨·, []⟩) with
        ⟨_, planned⟩ | ⟨h, refused⟩
      · exact .inl ⟨_, .linearMultistep planned⟩
      · exact .inr ⟨h, (runOn_plan_linearMultistep s.track s.derivatives steps).trans refused⟩

/-- An accepted plan is one of those listed. -/
theorem plans_of_ok {s planned : Scheduler A τ} {steps : Nat}
    (accepted : (plan steps).runOn s = (.ok (), planned)) : s.Plans steps planned := by
  rcases plan_cases s steps with ⟨other, plans⟩ | ⟨h, refused⟩
  · cases accepted.symm.trans (runOn_plan plans)
    exact plans
  · cases accepted.symm.trans refused

/-- What accepted plans and the forgetting of derivatives keep is kept by every plan. -/
theorem plan_keeps {P : Scheduler A τ → Prop} {s : Scheduler A τ} {steps : Nat}
    (accepted : ∀ planned, s.Plans steps planned → P planned) (refused : P s.withoutDerivatives) :
    P ((plan steps).runOn s).2 := by
  rcases plan_cases s steps with ⟨planned, plans⟩ | ⟨h, ran⟩
  · rw [runOn_plan plans]
    exact accepted planned plans
  · rw [ran]
    exact refused

end Diffusion.Scheduler
