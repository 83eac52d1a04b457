import Diffusion.Proofs.Sampling.Passes

/-!
Lookups in the sigmas of a pass.

The methods over sigmas look up the sigma at their place, and for a step the next one as well. No
call leads to a place without a sigma, however the calls before it ended: either call may find the
place, a step moves on only in front of another sigma, and an accepted plan forgets the place along
with the sigmas. So scaling an input finds its sigma in every state, and a step misses one only
behind the last timestep. Main statements: `indexed_session` and `lookups_of_session`.
-/

namespace Diffusion

variable {A : Arithmetic} {σ τ : Type} {timestep : A.Elem}

/-! ### Tracks -/

theorem returned_indexForTimestep (timesteps : List A.Elem) (timestep : A.Elem) :
    Halt.Returned (indexForTimestep timesteps timestep) := by
  intro h failed
  unfold indexForTimestep at failed
  split at failed
  · cases failed
  · cases failed
    exact ⟨_, rfl⟩

namespace SigmaTrack

theorem returned_located (s : SigmaTrack A) (timestep : A.Elem) :
    Halt.Returned (s.located timestep) := by
  intro h failed
  unfold SigmaTrack.located at failed
  split at failed
  · cases failed
  · cases found : indexForTimestep s.timesteps timestep <;> rw [found] at failed <;> cases failed
    exact returned_indexForTimestep _ _ h found

/-- There is a sigma for every timestep and a zero after them, unless no pass was ever planned. A
place that is known is that of a sigma. -/
structure Indexed (s : SigmaTrack A) : Prop where
  tables : s.timesteps = [] ∧ s.sigmas = #[] ∨
    s.sigmas.size = s.timesteps.length + 1 ∧ s.sigmas.back? = some 0
  place : ∀ i, s.place = some i → i < s.sigmas.size

theorem indexed_unplanned (schedule : NoiseSchedule A) : (unplanned schedule).Indexed :=
  ⟨.inl ⟨rfl, rfl⟩, nofun⟩

theorem indexed_of_plan {s planned : SigmaTrack A} {steps : Nat}
    (accepted : s.plan steps = .ok planned) : planned.Indexed := by
  obtain ⟨timesteps, -, rfl⟩ := of_plan accepted
  exact ⟨.inr ⟨by simp, Array.back?_push⟩, nofun⟩

variable {s s' placed : SigmaTrack A} {i : Nat}

theorem Indexed.size_sigmas (indexed : s.Indexed) (inside : i < s.sigmas.size) :
    s.sigmas.size = s.timesteps.length + 1 := by
  rcases indexed.tables with ⟨-, none⟩ | ⟨size, -⟩
  · rw [none] at inside
    cases inside
  · exact size

theorem Indexed.place_le (indexed : s.Indexed) (known : s.place = some i) :
    i ≤ s.timesteps.length := by
  have inside := indexed.place i known
  rw [indexed.size_sigmas inside] at inside
  exact Nat.le_of_lt_succ inside

/-- Wherever the place is found there is a sigma. -/
theorem Indexed.lt_of_located (indexed : s.Indexed)
    (located : s.located timestep = .ok (i, placed)) : i < s.sigmas.size := by
  rcases place_of_located located with known | ⟨-, inside⟩
  · exact indexed.place i known
  · rcases indexed.tables with ⟨none, -⟩ | ⟨size, -⟩
    · rw [none] at inside
      cases inside
    · omega

/-- And unless the place is behind the last timestep, another sigma follows there. -/
theorem Indexed.inside_of_located (indexed : s.Indexed)
    (left : s.place ≠ some s.timesteps.length)
    (located : s.located timestep = .ok (i, placed)) : i + 1 < s.sigmas.size := by
  have before : i < s.timesteps.length := by
    rcases place_of_located located with known | ⟨-, inside⟩
    · exact Nat.lt_of_le_of_ne (indexed.place_le known) fun last => left (last ▸ known)
    · exact inside
  rw [indexed.size_sigmas (indexed.lt_of_located located)]
  exact Nat.succ_lt_succ before

theorem Indexed.moves (indexed : s.Indexed) (moves : s.Moves s') : s'.Indexed := by
  cases moves with
  | stays => exact indexed
  | placed located =>
      rw [eq_placed located]
      exact ⟨indexed.tables, fun _ same => Option.some.inj same ▸ indexed.lt_of_located located⟩
  | moved located inside =>
      -- A step that succeeds has looked up the sigma that it moves on to.
      rw [eq_placed located]
      exact ⟨indexed.tables, fun _ same => Option.some.inj same ▸ inside⟩

theorem Indexed.ready_beyond (indexed : s.Indexed) (last : s.place = some s.timesteps.length) :
    s.Ready s.timesteps.length [] :=
  ⟨(indexed.size_sigmas (indexed.place _ last)).symm, fun t _ => located_of_place last t⟩

theorem Indexed.settles_scaleInput {B : Backend A σ τ} (orderly : B.Orderly) (indexed : s.Indexed)
    (sample : τ) (timestep : A.Elem) :
    ((scaleInput B sample timestep).threaded s).Settles fun _ => True := by
  rw [threaded_scaleInput]
  refine (Action.settles_ofExcept (returned_located s timestep)).bind fun ⟨i, placed⟩ located => ?_
  obtain ⟨sigma, found⟩ := exists_sigma (indexed.lt_of_located located)
  have here : placed.sigma i = .ok sigma := by
    rw [eq_placed located]
    exact found
  dsimp only
  rw [here, Action.ofExcept_ok, pure_bind]
  exact (orderly.scale sample _).bind fun _ _ => Action.settles_pure trivial

end SigmaTrack

namespace LinearMultistep

/-- As long as there are at most four, only the oldest of four makes room for a new one. -/
theorem remember_of_few {s : LinearMultistep A τ} (few : s.derivatives.length ≤ memory)
    (newest : τ) :
    (s.remember newest).derivatives = newest ::
      if s.derivatives.length = memory then s.derivatives.dropLast else s.derivatives := by
  change newest :: s.derivatives.take 3 = _
  split
  · rename_i full
    rw [List.dropLast_eq_take, full]
    rfl
  · rename_i room
    rw [List.take_of_length_le (Nat.le_of_lt_succ (Nat.lt_of_le_of_ne few room))]

/-- A weight reaches back over no more sigmas than there are behind its place. -/
theorem coefficient_ne_overflow {sigmas : Array A.Wide} {order i k : Nat}
    (behind : order ≤ i + 1) (below : k < order) :
    coefficient sigmas order i k ≠ .error .overflow := by
  by_cases inside : i + 1 < sigmas.size
  · obtain ⟨weight, computed⟩ := exists_coefficient behind inside below
    rw [computed]
    nofun
  · rw [coefficient_beyond (Nat.le_of_not_lt inside)]
    nofun

end LinearMultistep

/-! ### Schedulers -/

namespace Scheduler

/-- The pass of a scheduler that works over sigmas. -/
def track? : Scheduler A τ → Option (SigmaTrack A)
  | pndm _ | ddim _ | ddpm _ => none
  | euler s => some s.track
  | eulerAncestral s => some s.track
  | linearMultistep s => some s.track

/-- The scheduler works over sigmas that its place is one of, and it remembers no more derivatives
than the multistep method combines. -/
def Indexed (s : Scheduler A τ) : Prop :=
  ∃ track, s.track? = some track ∧ track.Indexed ∧ s.remembered.length ≤ LinearMultistep.memory

variable {id : SchedulerId} {config : ScheduleConfig A} {seed : UInt64} {s s' new : Scheduler A τ}
  {track : SigmaTrack A} {rest : List A.Elem} {i : Nat}

theorem indexed_of_create (made : create id config seed = .ok new) (keeps : id.KeepsPlace) :
    new.Indexed := by
  obtain ⟨schedule, -, rfl⟩ := of_create made
  have track := SigmaTrack.indexed_unplanned schedule
  cases id with
  | pndm | ddim | ddpm => cases keeps
  | eulerDiscrete | eulerAncestralDiscrete | lmsDiscrete => exact ⟨_, rfl, track, Nat.zero_le _⟩

theorem Indexed.plans {steps : Nat} (indexed : s.Indexed) (plans : s.Plans steps s') :
    s'.Indexed := by
  obtain ⟨track, tracks, -⟩ := indexed
  cases plans with
  | pndm | ddim | ddpm => cases tracks
  | euler planned | eulerAncestral planned | linearMultistep planned =>
      exact ⟨_, rfl, SigmaTrack.indexed_of_plan planned, Nat.zero_le _⟩

theorem Indexed.withoutDerivatives (indexed : s.Indexed) : s.withoutDerivatives.Indexed := by
  obtain ⟨track, tracks, inside, few⟩ := indexed
  cases s with
  | pndm | ddim | ddpm => cases tracks
  | euler | eulerAncestral => exact ⟨track, tracks, inside, few⟩
  | linearMultistep => exact ⟨track, tracks, inside, Nat.zero_le _⟩

theorem Indexed.moves (indexed : s.Indexed) (moves : s.Moves s') : s'.Indexed := by
  obtain ⟨track, tracks, inside, few⟩ := indexed
  cases moves with
  | stays => exact ⟨track, tracks, inside, few⟩
  | pndm | ddpm => cases tracks
  | euler moves | eulerAncestral moves =>
      cases tracks
      exact ⟨_, rfl, SigmaTrack.Indexed.moves inside moves, Nat.zero_le _⟩
  | linearMultistep moves remembered =>
      cases tracks
      refine ⟨_, rfl, SigmaTrack.Indexed.moves inside moves, ?_⟩
      rcases remembered with rfl | ⟨newest, rfl⟩
      · exact few
      · exact List.length_take_le _ _

theorem indexed_session (made : create id config seed = .ok new) (keeps : id.KeepsPlace)
    (calls : List (Call A σ τ)) (w : σ) : (session calls (w, new)).2.2.Indexed := by
  refine session_keeps (P := Indexed) ?_ ?_ calls w (indexed_of_create made keeps)
  · intro s steps indexed
    exact plan_keeps (fun planned plans => indexed.plans plans) indexed.withoutDerivatives
  · intro s s' moves indexed
    exact indexed.moves moves

/-! ### Calls -/

/-- What the lookups of a scheduler over sigmas come to. The backend of a call may fail at any
operation, as long as it says so. -/
structure Lookups (s : Scheduler A τ) (track : SigmaTrack A) : Prop where
  tables : track.timesteps = [] ∧ track.sigmas = #[] ∨
    track.sigmas.size = track.timesteps.length + 1 ∧ track.sigmas.back? = some 0
  place_le : ∀ i, track.place = some i → i ≤ track.timesteps.length
  remembered_le : s.remembered.length ≤ 4
  forgets_oldest : ∀ (method : LinearMultistep A τ) (newest : τ), s = linearMultistep method →
    (method.remember newest).derivatives = newest ::
      if method.derivatives.length = 4 then method.derivatives.dropLast else method.derivatives
  scaleInput_returns : ∀ {σ : Type} {B : Backend A σ τ}, B.Orderly → ∀ sample timestep w,
    Halt.Returned ((scaleInput B sample timestep).runOn (w, s)).1
  /-- Whatever number of derivatives is remembered, no weight looks back before the first sigma. -/
  weights_reach : ∀ derivatives i k : Nat,
    let order := min (min (i + 1) LinearMultistep.memory) derivatives
    k < order → LinearMultistep.coefficient track.sigmas order i k ≠ .error .overflow
  step_returns : track.place ≠ some track.timesteps.length →
    ∀ {σ : Type} {B : Backend A σ τ}, B.Orderly → ∀ output timestep sample w,
      Halt.Returned ((step B output timestep sample).runOn (w, s)).1
  step_misses : track.place = some track.timesteps.length →
    ∀ {σ : Type} {B : Backend A σ τ}, B.Orderly → ∀ output timestep sample w,
      ∃ h, ((step B output timestep sample).runOn (w, s)).1 = .error h ∧
        (h = .indexOutOfRange ∨ ∃ e, h = .error e)

theorem readyFor_of_ready (tracks : s.track? = some track) (ready : track.Ready i rest) :
    s.ReadyFor (fun _ => True) rest := by
  cases s with
  | pndm | ddim | ddpm => cases tracks
  | euler =>
      cases tracks
      exact .euler ready
  | eulerAncestral =>
      cases tracks
      exact .eulerAncestral ready
  | linearMultistep =>
      cases tracks
      exact .linearMultistep ready fun _ _ => trivial

variable {B : Backend A σ τ}

/-- Scaling an input is up to the pass, which is then put back. -/
theorem threaded_scaleInput_of_track (tracks : s.track? = some track) (sample : τ)
    (timestep : A.Elem) :
    ∃ put : SigmaTrack A → Scheduler A τ, (scaleInput B sample timestep).threaded s = (do
      let (scaled, track) ← (SigmaTrack.scaleInput B sample timestep).threaded track
      return (scaled, put track)) := by
  cases s with
  | pndm | ddim | ddpm => cases tracks
  | euler s =>
      cases tracks
      exact ⟨fun track => euler ⟨track⟩, threaded_scaleInput_euler B sample timestep s⟩
  | eulerAncestral s =>
      cases tracks
      exact ⟨fun track => eulerAncestral { s with track },
        threaded_scaleInput_eulerAncestral B sample timestep s⟩
  | linearMultistep s =>
      cases tracks
      exact ⟨fun track => linearMultistep { s with track },
        threaded_scaleInput_linearMultistep B sample timestep s⟩

theorem threaded_step_unlocated {h : Halt} (tracks : s.track? = some track)
    (unlocated : track.located timestep = .error h) (output sample : τ) :
    (step B output timestep sample).threaded s = Action.ofExcept (.error h) := by
  cases s with
  | pndm | ddim | ddpm => cases tracks
  | euler =>
      cases tracks
      rw [threaded_step_euler, Euler.threaded_step, unlocated]
      rfl
  | eulerAncestral =>
      cases tracks
      rw [threaded_step_eulerAncestral, EulerAncestral.threaded_step, unlocated]
      rfl
  | linearMultistep =>
      cases tracks
      rw [threaded_step_linearMultistep, LinearMultistep.threaded_step, unlocated]
      rfl

section Orderly

variable (orderly : B.Orderly) (tracks : s.track? = some track) (indexed : track.Indexed)

include orderly tracks indexed

theorem returned_scaleInput (sample : τ) (timestep : A.Elem) (w : σ) :
    Halt.Returned ((scaleInput B sample timestep).runOn (w, s)).1 := by
  have settles := indexed.settles_scaleInput orderly sample timestep
  obtain ⟨put, scales⟩ := threaded_scaleInput_of_track (B := B) tracks sample timestep
  refine Action.Settles.returned (P := fun _ => True) ?_ w
  rw [scales]
  exact settles.bind fun _ _ => Action.settles_pure trivial

theorem returned_step (left : track.place ≠ some track.timesteps.length) (output sample : τ)
    (timestep : A.Elem) (w : σ) :
    Halt.Returned ((step B output timestep sample).runOn (w, s)).1 := by
  refine Action.Settles.returned (P := fun _ => True) ?_ w
  cases located : track.located timestep with
  | error h =>
      obtain ⟨e, rfl⟩ := track.returned_located timestep h located
      rw [threaded_step_unlocated tracks located]
      exact Action.settles_fail e
  | ok found =>
      obtain ⟨i, placed⟩ := found
      obtain ⟨later, ready⟩ :=
        SigmaTrack.ready_of_located located (indexed.inside_of_located left located)
      exact (orderly.contract.meets_step (w := ()) (readyFor_of_ready tracks ready) trivial
        trivial).imp fun _ _ => trivial

/-- Behind the last timestep no step succeeds. The multistep method computes its derivative before
it looks for the next sigma, so there the backend may report an error first. -/
theorem step_misses (last : track.place = some track.timesteps.length) (output sample : τ)
    (timestep : A.Elem) (w : σ) :
    ∃ h, ((step B output timestep sample).runOn (w, s)).1 = .error h ∧
      (h = .indexOutOfRange ∨ ∃ e, h = .error e) := by
  have ready := indexed.ready_beyond last
  have ends : ∃ h w', ((step B output timestep sample).threaded s).runOn w = (.error h, w') ∧
      (h = .indexOutOfRange ∨ ∃ e, h = .error e) := by
    cases s with
    | pndm | ddim | ddpm => cases tracks
    | euler =>
        cases tracks
        rw [threaded_step_euler, Euler.step_after_last B ready]
        exact ⟨_, w, rfl, .inl rfl⟩
    | eulerAncestral =>
        cases tracks
        rw [threaded_step_eulerAncestral, EulerAncestral.step_after_last B _ ready]
        exact ⟨_, w, rfl, .inl rfl⟩
    | linearMultistep =>
        cases tracks
        obtain ⟨sigma, steps⟩ :=
          LinearMultistep.step_after_last B ready output timestep sample
        rw [threaded_step_linearMultistep, steps, bind_assoc]
        rcases orderly.contract.drawn_derivative (w := ()) sigma trivial trivial w with
          ⟨derivative, between, ran, -⟩ | ⟨e, between, ran⟩
        · rw [Action.runOn_bind_ok ran]
          exact ⟨_, between, rfl, .inl rfl⟩
        · rw [Action.runOn_bind_error ran]
          exact ⟨_, between, rfl, .inr ⟨e, rfl⟩⟩
  obtain ⟨h, w', ran, kind⟩ := ends
  obtain ⟨left, failed⟩ := Action.of_threaded_error ran
  exact ⟨h, congrArg Prod.fst failed, kind⟩

end Orderly

/-- Whatever was called on a scheduler over sigmas before, and however it ended: the tables belong
together, the place is within them, and at most four derivatives are remembered. So scaling an input
comes back, and so does a step, unless the place is behind the last timestep, where no step
succeeds. -/
theorem lookups_of_session (made : create id config seed = .ok new) (keeps : id.KeepsPlace)
    (calls : List (Call A σ τ)) (w : σ) :
    ∃ track, (session calls (w, new)).2.2.track? = some track ∧
      (session calls (w, new)).2.2.Lookups track := by
  obtain ⟨track, tracks, indexed, few⟩ := indexed_session made keeps calls w
  refine ⟨track, tracks, ?_⟩
  exact {
    tables := indexed.tables
    place_le := fun i known => indexed.place_le known
    remembered_le := few
    forgets_oldest := fun method newest same =>
      LinearMultistep.remember_of_few (by rw [same] at few; exact few) newest
    scaleInput_returns := fun orderly => returned_scaleInput orderly tracks indexed
    weights_reach := fun derivatives i k below =>
      LinearMultistep.coefficient_ne_overflow (by omega) below
    step_returns := fun left _ _ orderly output timestep sample w =>
      returned_step orderly tracks indexed left output sample timestep w
    step_misses := fun last _ _ orderly output timestep sample w =>
      step_misses orderly tracks indexed last output sample timestep w }

/-- A pass of three steps that goes astray: the second step fails in its sum, as it remembers a
derivative of another shape, and after the third one more is tried. -/
def astray : List (Call whole Unit (Tensor Int)) :=
  [.plan 3, filledStep 2 [2] [2], filledStep 1 [1] [1], filledStep 1 [1] [1],
    .scaleInput (Backend.eager none) (.fill [1] 3) (0 : Int), filledStep 0 [1] [1],
    filledStep 0 [1] [1]]

theorem lookups_of_session_astray :
    ∃ (new : Scheduler whole (Tensor Int)) (track : SigmaTrack whole),
      create .lmsDiscrete noiseless 0 = .ok new ∧ SchedulerId.lmsDiscrete.KeepsPlace ∧
      let ended := session astray ((), new)
      answered ended.1 = [true, true, false, true, true, true, false] ∧
      ended.1.map (fun reply => lookedOutside reply.answer) =
        [false, false, false, false, false, false, true] ∧
      ended.2.2.track? = some track ∧ track.place = some 3 ∧ track.timesteps.length = 3 ∧
      ended.2.2.remembered.length = 4 ∧ ended.2.2.Lookups track := by
  have runs : (create .lmsDiscrete noiseless 0).toOption.map (fun new =>
      let ended := session astray ((), new)
      (answered ended.1, ended.1.map (fun reply => lookedOutside reply.answer),
        ended.2.2.track?.bind (·.place), ended.2.2.track?.map (·.timesteps.length),
        ended.2.2.remembered.length)) =
      some ([true, true, false, true, true, true, false],
        [false, false, false, false, false, false, true], some 3, some 3, 4) := by
    decide +kernel
  obtain ⟨new, created, result⟩ := Option.map_eq_some_iff.mp runs
  obtain ⟨replies, result⟩ := Prod.mk.inj result
  obtain ⟨outside, result⟩ := Prod.mk.inj result
  obtain ⟨place, result⟩ := Prod.mk.inj result
  obtain ⟨length, few⟩ := Prod.mk.inj result
  have made := Halt.toOption_eq_some_iff.mp created
  have keeps : SchedulerId.lmsDiscrete.KeepsPlace := trivial
  obtain ⟨track, tracks, lookups⟩ := lookups_of_session made keeps astray ()
  rw [tracks] at place length
  exact ⟨new, track, made, keeps, replies, outside, tracks, place, Option.some.inj length, few,
    lookups⟩

end Scheduler

end Diffusion
