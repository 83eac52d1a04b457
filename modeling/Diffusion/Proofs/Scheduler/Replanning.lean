import Diffusion.Backend.Eager
import Diffusion.Proofs.Sampling.Coupled
import Diffusion.Proofs.Scheduler.Sound

/-!
Planning again in the middle of things.

An accepted plan depends on the schedule and the seed of a scheduler and on nothing else, and no
call changes these. A refused plan is meant to change nothing; one kind of scheduler forgets what it
remembers all the same. Main statements: `session_replanned` and `session_refused`.
-/

namespace Diffusion.Scheduler

variable {A : Arithmetic} {σ τ : Type}

/-- The scheduler as it was before any call. -/
def renewed : Scheduler A τ → Scheduler A τ
  | pndm s => pndm (.unplanned s.line.schedule)
  | ddim s => ddim (.unplanned s.line.schedule)
  | ddpm s => ddpm (.unplanned s.line.schedule s.seed)
  | euler s => euler (.unplanned s.track.schedule)
  | eulerAncestral s => eulerAncestral (.unplanned s.track.schedule s.seed)
  | linearMultistep s => linearMultistep (.unplanned s.track.schedule)

theorem renewed_ofSchedule (id : SchedulerId) (schedule : NoiseSchedule A) (seed : UInt64) :
    renewed (ofSchedule id schedule seed : Scheduler A τ) = ofSchedule id schedule seed := by
  cases id <;> rfl

/-! ### Plans -/

/-- What a plan leaves is up to the schedule and the seed. -/
theorem plans_renewed {s planned : Scheduler A τ} {steps : Nat} (plans : s.Plans steps planned) :
    s.renewed.Plans steps planned := by
  cases plans with
  | @pndm s _ planned => exact .pndm (s := .unplanned s.line.schedule) planned
  | @ddim s _ planned => exact .ddim (s := .unplanned s.line.schedule) planned
  | @ddpm s _ planned => exact .ddpm (s := .unplanned s.line.schedule s.seed) planned
  | @euler s _ planned => exact .euler (s := .unplanned s.track.schedule) planned
  | @eulerAncestral s _ planned =>
      exact .eulerAncestral (s := .unplanned s.track.schedule s.seed) planned
  | @linearMultistep s _ planned =>
      exact .linearMultistep (s := .unplanned s.track.schedule) planned

theorem eq_of_plan_error {s left : Scheduler A τ} {steps : Nat} {h : Halt}
    (refused : (plan steps).runOn s = (.error h, left)) : left = s.withoutDerivatives := by
  rcases plan_cases s steps with ⟨planned, plans⟩ | ⟨h, ran⟩
  · cases refused.symm.trans (runOn_plan plans)
  · cases refused.symm.trans ran
    rfl

theorem timesteps_withoutDerivatives (s : Scheduler A τ) :
    s.withoutDerivatives.timesteps = s.timesteps := by
  cases s <;> rfl

theorem initialDeviation_withoutDerivatives (s : Scheduler A τ) :
    s.withoutDerivatives.initialDeviation = s.initialDeviation := by
  cases s <;> rfl

theorem withoutDerivatives_of_id {s : Scheduler A τ} (other : s.id ≠ .lmsDiscrete) :
    s.withoutDerivatives = s := by
  cases s with
  | linearMultistep s => exact absurd rfl other
  | pndm | ddim | ddpm | euler | eulerAncestral => rfl

/-! ### What no call changes -/

theorem renewed_of_moves {s s' : Scheduler A τ} (moves : s.Moves s') : s'.renewed = s.renewed := by
  have schedule : ∀ {track track' : SigmaTrack A}, track.Moves track' →
      track'.schedule = track.schedule := by
    rintro track _ (_ | located | ⟨located, -⟩)
    · rfl
    · rw [SigmaTrack.eq_placed located]
    · rw [SigmaTrack.eq_placed located]
      rfl
  cases moves with
  | stays | pndm | ddpm => rfl
  | euler moves => exact congrArg (fun schedule => euler (.unplanned schedule)) (schedule moves)
  | @eulerAncestral s _ moves =>
      exact congrArg (fun schedule => eulerAncestral (.unplanned schedule s.seed)) (schedule moves)
  | linearMultistep moves =>
      exact congrArg (fun schedule => linearMultistep (.unplanned schedule)) (schedule moves)

theorem renewed_plan (s : Scheduler A τ) (steps : Nat) :
    ((plan steps).runOn s).2.renewed = s.renewed := by
  refine plan_keeps (P := fun left => left.renewed = s.renewed) ?_ (by cases s <;> rfl)
  intro planned plans
  cases plans with
  | pndm accepted | ddim accepted | ddpm accepted =>
      simp only [renewed, Timeline.schedule_of_plan accepted]
  | euler accepted | eulerAncestral accepted | linearMultistep accepted =>
      simp only [renewed, SigmaTrack.schedule_of_plan accepted]

/-! ### Sessions -/

variable {id : SchedulerId} {config : ScheduleConfig A} {seed : UInt64} {new : Scheduler A τ}

theorem renewed_session (made : create id config seed = .ok new) (calls : List (Call A σ τ))
    (w : σ) : (session calls (w, new)).2.2.renewed = new := by
  obtain ⟨schedule, -, rfl⟩ := of_create made
  refine session_keeps (P := fun s => s.renewed = _) ?_ ?_ calls w
    (renewed_ofSchedule id schedule seed)
  · intro s steps same
    exact (renewed_plan s steps).trans same
  · intro s s' moves same
    exact (renewed_of_moves moves).trans same

/-- An accepted plan makes a used scheduler as good as new: whatever was called before, and however
it ended, a new scheduler takes the same plan, and from then on nobody can tell the two apart. -/
theorem session_replanned (made : create id config seed = .ok new) (earlier : List (Call A σ τ))
    (w : σ) {steps : Nat} {replanned : Scheduler A τ}
    (accepted : (plan steps).runOn (session earlier (w, new)).2.2 = (.ok (), replanned)) :
    ∃ fresh, Scheduler.planned id config seed steps = .ok fresh ∧
      replanned.timesteps = fresh.timesteps ∧
      replanned.initialDeviation = fresh.initialDeviation ∧
      ∀ {σ' : Type} (later : List (Call A σ' τ)) (w' : σ'),
        session later (w', replanned) = session later (w', fresh) := by
  obtain ⟨schedule, scheduled, unused⟩ := of_create made
  have plans := plans_renewed (plans_of_ok accepted)
  rw [renewed_session made, unused] at plans
  have ran := runOn_plan plans
  exact ⟨replanned, planned_eq_ok_iff.mpr ⟨schedule, scheduled, ran⟩, rfl, rfl, fun _ _ => rfl⟩

/-- A step of whole numbers on tensors of two shapes, filled with one number each. -/
def filledStep (timestep : Int) (output sample : Shape) : Call whole Unit (Tensor Int) :=
  .step (Backend.eager none) (.fill output 1) timestep (.fill sample 3)

/-- Which calls of a session were answered. -/
def answered (replies : List (Reply A τ)) : List Bool :=
  replies.map fun reply => reply.answer.toOption.isSome

/-- A pass of two steps that is given up after its second step has failed. -/
def givenUp : List (Call whole Unit (Tensor Int)) :=
  [.plan 2, filledStep 2 [1] [1], filledStep 0 [2] [1]]

theorem session_replanned_givenUp :
    ∃ new replanned fresh : Scheduler whole (Tensor Int),
      create .lmsDiscrete noiseless 0 = .ok new ∧
      answered (session givenUp ((), new)).1 = [true, true, false] ∧
      (plan 4).runOn (session givenUp ((), new)).2.2 = (.ok (), replanned) ∧
      Scheduler.planned .lmsDiscrete noiseless 0 4 = .ok fresh ∧
      ∀ later : List (Call whole Unit (Tensor Int)),
        session later ((), replanned) = session later ((), fresh) := by
  have runs : (create .lmsDiscrete noiseless 0).toOption.map (fun new =>
      let left := session givenUp ((), new)
      (answered left.1, ((plan 4).runOn left.2.2).1.toOption)) =
        some ([true, true, false], some ()) := by
    decide +kernel
  obtain ⟨new, created, result⟩ := Option.map_eq_some_iff.mp runs
  obtain ⟨replies, planned⟩ := Prod.mk.inj result
  have made := Halt.toOption_eq_some_iff.mp created
  have accepted : (plan 4).runOn (session givenUp ((), new)).2.2 = (.ok (), _) :=
    Prod.ext (Halt.toOption_eq_some_iff.mp planned) rfl
  obtain ⟨fresh, plans, -, -, same⟩ := session_replanned made givenUp () accepted
  exact ⟨new, _, fresh, made, replies, accepted, plans, fun later => same later ()⟩

/-- A refused plan leaves timesteps and deviation as they are, and everything else too, but for the
linear multistep method: it goes on as if it remembered no derivatives. -/
theorem session_refused {s left : Scheduler A τ} {steps : Nat} {h : Halt}
    (refused : (plan steps).runOn s = (.error h, left)) :
    left.timesteps = s.timesteps ∧ left.initialDeviation = s.initialDeviation ∧
      ∀ (later : List (Call A σ τ)) (w : σ),
        session later (w, left) = session later (w, s.withoutDerivatives) ∧
          (s.id ≠ .lmsDiscrete → session later (w, left) = session later (w, s)) := by
  rw [eq_of_plan_error refused]
  refine ⟨s.timesteps_withoutDerivatives, s.initialDeviation_withoutDerivatives, fun later w => ?_⟩
  refine ⟨rfl, fun other => ?_⟩
  rw [withoutDerivatives_of_id other]

/-- A pass in its middle: the first of two steps is made. -/
def halfway : List (Call whole Unit (Tensor Int)) := [.plan 2, filledStep 2 [1] [1]]

/-- Euler's method in the middle of a pass, and a plan of no steps. -/
theorem session_refused_euler :
    ∃ new left : Scheduler whole (Tensor Int), ∃ h,
      create .eulerDiscrete noiseless 0 = .ok new ∧
      let s := (session halfway ((), new)).2.2
      (plan 0).runOn s = (.error h, left) ∧ left.timesteps.length = 2 ∧
      left.timesteps = s.timesteps ∧
      ∀ later : List (Call whole Unit (Tensor Int)),
        session later ((), left) = session later ((), s) := by
  have runs : (create .eulerDiscrete noiseless 0).toOption.map (fun new =>
      let s : Scheduler whole (Tensor Int) := (session halfway ((), new)).2.2
      (s.id, s.timesteps.length, ((plan 0).runOn s).1.toOption)) =
        some (.eulerDiscrete, 2, none) := by
    decide +kernel
  obtain ⟨new, created, result⟩ := Option.map_eq_some_iff.mp runs
  obtain ⟨kind, result⟩ := Prod.mk.inj result
  obtain ⟨count, rejected⟩ := Prod.mk.inj result
  have made := Halt.toOption_eq_some_iff.mp created
  rcases planned : (plan 0).runOn (session halfway ((), new)).2.2 with ⟨h | _, left⟩
  · obtain ⟨timesteps, -, later⟩ := session_refused (σ := Unit) planned
    have other : (session halfway ((), new)).2.2.id ≠ .lmsDiscrete := by
      rw [kind]
      decide
    exact ⟨new, left, h, made, planned, timesteps ▸ count, timesteps,
      fun calls => (later calls ()).2 other⟩
  · rw [planned] at rejected
    cases rejected

/-- The linear multistep method in the middle of a pass, and a plan of no steps: a step on tensors
of another shape then succeeds, which fails as long as the first derivative is remembered. -/
theorem session_refused_linearMultistep :
    (create .lmsDiscrete noiseless 0).toOption.map (fun new =>
      let s : Unit × Scheduler whole (Tensor Int) := (session halfway ((), new)).2
      let refused := session [.plan 0] s
      let next := [filledStep 0 [2] [2]]
      (answered refused.1, answered (session next s).1, answered (session next refused.2).1)) =
    some ([false], [false], [true]) := by
  decide +kernel

end Diffusion.Scheduler
