import Diffusion.Proofs.Arithmetic.Whole
import Diffusion.Proofs.Scheduler.Calls
import Diffusion.Proofs.Scheduler.Plans
import Diffusion.Proofs.Scheduler.Ready

/-!
States that a scheduler can get into.

A scheduler is sound when its tables belong to its timesteps and its place, if it has one, is within
them or right behind the last. No call breaks this, whether it succeeds or fails. Main statements:
`sound_session`, and `Sound.readyFor_step` and `Sound.readyFor_pass`, by which a sound scheduler is
ready for a timestep of its pass as long as one is left, and for the whole pass at its start.
-/

namespace Diffusion

variable {A : Arithmetic} {σ τ : Type}

/-- Counts count as numbers: each is the same as itself and is not cut to a negative integer. -/
def Arithmetic.CountsAreNumbers (A : Arithmetic) : Prop :=
  ∀ n : Nat, A.same (A.elemOfNat n) (A.elemOfNat n) = true ∧ 0 ≤ A.truncate (A.elemOfNat n)

theorem whole_countsAreNumbers : whole.CountsAreNumbers :=
  fun n => ⟨beq_self_eq_true (Int.ofNat n), Int.natCast_nonneg n⟩

namespace NoiseSchedule

theorem config_of_ofConfig {config : ScheduleConfig A} {schedule : NoiseSchedule A}
    (scheduled : ofConfig config = .ok schedule) :
    schedule.config = config ∧ config.numTrainTimesteps < tableLimit := by
  unfold ofConfig at scheduled
  split at scheduled
  · cases scheduled
  · split at scheduled
    · cases scheduled
    · rename_i room
      cases scheduled
      exact ⟨rfl, Nat.lt_of_not_le room⟩

theorem leadingTimesteps_of_ok {s : NoiseSchedule A} {steps : Nat} {timesteps : List A.Elem}
    (accepted : s.leadingTimesteps steps = .ok timesteps) :
    0 < steps ∧ timesteps = (List.range steps).reverse.map fun i =>
      A.elemOfNat (i * s.stepRatio steps + s.config.stepsOffset) := by
  unfold leadingTimesteps at accepted
  split at accepted
  · cases accepted
  · rename_i some
    dsimp only at accepted
    split at accepted
    · cases accepted
    · obtain ⟨top, -, checked⟩ := Halt.bind_eq_ok_iff.mp accepted
      split at checked
      · cases checked
      · cases checked
        exact ⟨Nat.pos_of_ne_zero some, rfl⟩

theorem length_leadingTimesteps {s : NoiseSchedule A} {steps : Nat} {timesteps : List A.Elem}
    (accepted : s.leadingTimesteps steps = .ok timesteps) : timesteps.length = steps := by
  rw [(leadingTimesteps_of_ok accepted).2, List.length_map, List.length_reverse,
    List.length_range]

theorem count_of_mem_leadingTimesteps {s : NoiseSchedule A} {steps : Nat}
    {timesteps : List A.Elem} {timestep : A.Elem}
    (accepted : s.leadingTimesteps steps = .ok timesteps) (member : timestep ∈ timesteps) :
    ∃ n : Nat, timestep = A.elemOfNat n := by
  rw [(leadingTimesteps_of_ok accepted).2] at member
  obtain ⟨i, -, same⟩ := List.mem_map.mp member
  exact ⟨_, same.symm⟩

theorem stepRatio_le (s : NoiseSchedule A) (steps : Nat) :
    s.stepRatio steps ≤ s.config.numTrainTimesteps := Nat.div_le_self _ _

end NoiseSchedule

/-! ### Timesteps -/

theorem indexForTimestep_head {timestep : A.Elem} (same : A.same timestep timestep = true)
    (rest : List A.Elem) : indexForTimestep (timestep :: rest) timestep = .ok 0 := by
  rw [indexForTimestep, List.findIdx?_cons, if_pos same]

theorem indexForTimestep_of_mem {timesteps : List A.Elem} {timestep : A.Elem}
    (member : timestep ∈ timesteps) (same : A.same timestep timestep = true) :
    ∃ i, indexForTimestep timesteps timestep = .ok i := by
  unfold indexForTimestep
  cases found : timesteps.findIdx? (fun t => A.same t timestep) with
  | none => exact absurd same (by simpa using List.findIdx?_eq_none_iff.mp found timestep member)
  | some i => exact ⟨i, rfl⟩

theorem lt_of_indexForTimestep {timesteps : List A.Elem} {timestep : A.Elem} {i : Nat}
    (found : indexForTimestep timesteps timestep = .ok i) : i < timesteps.length := by
  unfold indexForTimestep at found
  split at found
  · rename_i position
    cases found
    exact (List.findIdx?_eq_some_iff_getElem.mp position).1
  · cases found

/-! ### Lines and tracks -/

/-- What a pass is planned from: the timesteps that the schedule gives, and nothing of the pass
before. -/
theorem Timeline.of_plan {line planned : Timeline A} {steps : Nat}
    (accepted : line.plan steps = .ok planned) :
    ∃ timesteps, line.schedule.leadingTimesteps steps = .ok timesteps ∧
      planned = ⟨line.schedule, timesteps, line.schedule.stepRatio steps⟩ := by
  obtain ⟨timesteps, led, returned⟩ := Halt.bind_eq_ok_iff.mp accepted
  cases returned
  exact ⟨timesteps, led, rfl⟩

theorem Timeline.schedule_of_plan {line planned : Timeline A} {steps : Nat}
    (accepted : line.plan steps = .ok planned) : planned.schedule = line.schedule := by
  obtain ⟨timesteps, -, rfl⟩ := Timeline.of_plan accepted
  rfl

/-- A step back from every timestep of the pass is a signed word, and so it will be in every other
pass over the schedule. -/
structure Timeline.Sound (line : Timeline A) : Prop where
  room : line.schedule.config.numTrainTimesteps < NoiseSchedule.tableLimit
  ready : line.Ready line.timesteps

theorem Timeline.Sound.plan (counts : A.CountsAreNumbers) {line planned : Timeline A} {steps : Nat}
    (sound : line.Sound) (accepted : line.plan steps = .ok planned) : planned.Sound := by
  obtain ⟨timesteps, led, rfl⟩ := Timeline.of_plan accepted
  refine ⟨sound.room, fun timestep member => ?_⟩
  obtain ⟨n, rfl⟩ := NoiseSchedule.count_of_mem_leadingTimesteps led member
  -- The timestep is not negative and the ratio is far below the smallest signed word.
  have positive := (counts n).2
  have ratio := line.schedule.stepRatio_le steps
  have room := sound.room
  have limit : NoiseSchedule.tableLimit < 0x8000000000000000 := by decide
  exact ⟨_, if_pos (by dsimp only; omega)⟩

namespace SigmaTrack

theorem of_plan {s planned : SigmaTrack A} {steps : Nat} (accepted : s.plan steps = .ok planned) :
    ∃ timesteps, s.schedule.leadingTimesteps steps = .ok timesteps ∧
      planned = ⟨s.schedule, timesteps,
        (timesteps.map fun t => s.schedule.sigmaAt (A.truncate t).toNat).toArray.push 0, none⟩ := by
  obtain ⟨timesteps, led, returned⟩ := Halt.bind_eq_ok_iff.mp accepted
  cases returned
  exact ⟨timesteps, led, rfl⟩

theorem schedule_of_plan {s planned : SigmaTrack A} {steps : Nat}
    (accepted : s.plan steps = .ok planned) : planned.schedule = s.schedule := by
  obtain ⟨timesteps, -, rfl⟩ := of_plan accepted
  rfl

/-- There is a sigma for every timestep and one more, unless no pass was ever planned, and the place
is that of a timestep or right behind the last one. -/
structure Sound (s : SigmaTrack A) : Prop where
  numbers : ∀ timestep ∈ s.timesteps, A.same timestep timestep = true
  sigmas : s.timesteps = [] ∧ s.sigmas = #[] ∨ s.sigmas.size = s.timesteps.length + 1
  place : ∀ i, s.place = some i → i ≤ s.timesteps.length

theorem sound_unplanned (schedule : NoiseSchedule A) : (unplanned schedule).Sound :=
  ⟨nofun, .inl ⟨rfl, rfl⟩, nofun⟩

theorem sound_of_plan (counts : A.CountsAreNumbers) {s planned : SigmaTrack A} {steps : Nat}
    (accepted : s.plan steps = .ok planned) : planned.Sound := by
  obtain ⟨timesteps, led, rfl⟩ := of_plan accepted
  refine ⟨fun timestep member => ?_, .inr (by simp), nofun⟩
  obtain ⟨n, rfl⟩ := NoiseSchedule.count_of_mem_leadingTimesteps led member
  exact (counts n).1

/-- How many timesteps of the pass lie behind its place. As long as the place is not known, none
do. -/
def visited (s : SigmaTrack A) : Nat := s.place.getD 0

variable {s s' placed : SigmaTrack A} {timestep : A.Elem} {i : Nat}

/-- In front of another sigma a pass is ready for the timestep at which its place is found. -/
theorem ready_of_located (located : s.located timestep = .ok (i, placed))
    (inside : i + 1 < s.sigmas.size) : ∃ later, s.Ready i (timestep :: later) := by
  refine ⟨.replicate (s.sigmas.size - (i + 2)) timestep, ?_, fun t due => ?_⟩
  · rw [List.length_cons, List.length_replicate]
    omega
  · rw [due timestep rfl, located, eq_placed located]

theorem located_of_place (known : s.place = some i) (timestep : A.Elem) :
    s.located timestep = .ok (i, { s with place := some i }) := by
  obtain ⟨schedule, timesteps, sigmas, place⟩ := s
  cases known
  rfl

/-- A place is known before, or it is that of a timestep. -/
theorem place_of_located (located : s.located timestep = .ok (i, placed)) :
    s.place = some i ∨ s.place = none ∧ i < s.timesteps.length := by
  unfold SigmaTrack.located at located
  split at located
  · rename_i place
    cases located
    exact .inl place
  · rename_i place
    cases found : indexForTimestep s.timesteps timestep <;> rw [found] at located <;> cases located
    exact .inr ⟨place, lt_of_indexForTimestep found⟩

theorem Sound.le_of_located (sound : s.Sound) (located : s.located timestep = .ok (i, placed)) :
    i ≤ s.timesteps.length := by
  rcases place_of_located located with known | ⟨-, inside⟩
  · exact sound.place i known
  · exact Nat.le_of_lt inside

theorem Sound.of_place (sound : s.Sound) (inside : i ≤ s.timesteps.length) :
    Sound { s with place := some i } :=
  ⟨sound.numbers, sound.sigmas, fun _ same => Option.some.inj same ▸ inside⟩

theorem Sound.moves (sound : s.Sound) (moves : s.Moves s') : s'.Sound := by
  cases moves with
  | stays => exact sound
  | placed located =>
      rw [eq_placed located]
      exact sound.of_place (sound.le_of_located located)
  | moved located inside =>
      rw [eq_placed located]
      refine sound.of_place ?_
      rcases sound.sigmas with ⟨-, none⟩ | size
      · rw [none] at inside
        cases inside
      · rw [size] at inside
        exact Nat.lt_of_succ_lt_succ inside

theorem Sound.visited_le (sound : s.Sound) : s.visited ≤ s.timesteps.length := by
  unfold visited
  cases place : s.place with
  | none => exact Nat.zero_le _
  | some i => exact sound.place i place

theorem Sound.size_sigmas (sound : s.Sound) (planned : s.timesteps ≠ []) :
    s.sigmas.size = s.timesteps.length + 1 :=
  sound.sigmas.resolve_left fun unplanned => planned unplanned.1

/-- While a timestep is left, any timestep of the pass can be visited. -/
theorem Sound.ready_step (sound : s.Sound) (member : timestep ∈ s.timesteps)
    (left : s.visited < s.timesteps.length) :
    ∃ i later, s.Ready i (timestep :: later) := by
  obtain ⟨i, placed, inside, located⟩ : ∃ i placed, i < s.timesteps.length ∧
      s.located timestep = .ok (i, placed) := by
    unfold SigmaTrack.located
    unfold visited at left
    cases place : s.place with
    | some i =>
        rw [place] at left
        exact ⟨i, _, left, rfl⟩
    | none =>
        obtain ⟨i, found⟩ := indexForTimestep_of_mem member (sound.numbers timestep member)
        exact ⟨i, _, lt_of_indexForTimestep found, by rw [found]; rfl⟩
  have size := sound.size_sigmas (List.ne_nil_of_mem member)
  exact ⟨i, ready_of_located located (by omega)⟩

/-- Before its first timestep a pass can be visited as a whole. -/
theorem Sound.ready_pass (sound : s.Sound) (planned : s.timesteps ≠ [])
    (start : s.visited = 0) : s.Ready 0 s.timesteps := by
  refine ⟨by rw [sound.size_sigmas planned, Nat.zero_add], fun t due => ?_⟩
  obtain ⟨first, rest, steps⟩ := List.exists_cons_of_ne_nil planned
  rw [due first (by rw [steps]; rfl)]
  unfold visited at start
  cases place : s.place with
  | some i =>
      rw [place] at start
      cases (start : i = 0)
      exact located_of_place place first
  | none =>
      have same := sound.numbers first (by rw [steps]; exact List.mem_cons_self)
      rw [SigmaTrack.located, place, steps]
      exact congrArg (Except.map _) (indexForTimestep_head same rest)

/-- Later on there are only as many visits left as there are timesteps behind the place. -/
theorem Sound.ready_rest (sound : s.Sound) (planned : s.timesteps ≠ [])
    (begun : s.visited ≠ 0) :
    s.Ready s.visited (s.timesteps.take (s.timesteps.length - s.visited)) := by
  have le := sound.visited_le
  refine ⟨?_, fun t _ => ?_⟩
  · rw [sound.size_sigmas planned, List.length_take]
    omega
  · unfold visited at begun ⊢
    cases place : s.place with
    | none => exact absurd (by rw [place]; rfl) begun
    | some i => exact located_of_place place t

end SigmaTrack

/-! ### Schedulers -/

namespace Scheduler

/-- The tables of the scheduler belong to its timesteps, and its place is within them. -/
def Sound : Scheduler A τ → Prop
  | pndm s => s.line.Sound
  | ddim s => s.line.Sound
  | ddpm s => s.line.Sound
  | euler s => s.track.Sound
  | eulerAncestral s => s.track.Sound
  | linearMultistep s => s.track.Sound

/-- How many timesteps of its pass lie behind a scheduler that keeps its place in the pass. The
methods over cumulative alphas keep none. -/
def visited : Scheduler A τ → Nat
  | pndm _ | ddim _ | ddpm _ => 0
  | euler s => s.track.visited
  | eulerAncestral s => s.track.visited
  | linearMultistep s => s.track.visited

/-- The tensors that the scheduler remembers. -/
def remembered : Scheduler A τ → List τ
  | pndm s => s.outputs
  | linearMultistep s => s.derivatives
  | ddim _ | ddpm _ | euler _ | eulerAncestral _ => []

variable {id : SchedulerId} {config : ScheduleConfig A} {seed : UInt64} {s s' new : Scheduler A τ}
  {fits : τ → Prop} {timestep : A.Elem}

theorem of_create (made : create id config seed = .ok new) :
    ∃ schedule, NoiseSchedule.ofConfig config = .ok schedule ∧
      new = ofSchedule id schedule seed := by
  obtain ⟨schedule, scheduled, returned⟩ := Halt.bind_eq_ok_iff.mp made
  cases returned
  exact ⟨schedule, scheduled, rfl⟩

theorem sound_of_create (made : create id config seed = .ok new) : new.Sound := by
  obtain ⟨schedule, scheduled, rfl⟩ := of_create made
  obtain ⟨rfl, room⟩ := NoiseSchedule.config_of_ofConfig scheduled
  have line : (Timeline.unplanned schedule).Sound := ⟨room, nofun⟩
  have track := SigmaTrack.sound_unplanned schedule
  cases id with
  | pndm | ddim | ddpm => exact line
  | eulerDiscrete | eulerAncestralDiscrete | lmsDiscrete => exact track

theorem Sound.plans (counts : A.CountsAreNumbers) {steps : Nat} (sound : s.Sound)
    (plans : s.Plans steps s') : s'.Sound := by
  cases plans with
  | pndm planned | ddim planned | ddpm planned => exact Timeline.Sound.plan counts sound planned
  | euler planned | eulerAncestral planned | linearMultistep planned =>
      exact SigmaTrack.sound_of_plan counts planned

theorem Sound.moves (sound : s.Sound) (moves : s.Moves s') : s'.Sound := by
  cases moves with
  | stays | pndm | ddpm => exact sound
  | euler moves | eulerAncestral moves | linearMultistep moves =>
      exact SigmaTrack.Sound.moves sound moves

theorem sound_session (counts : A.CountsAreNumbers) (made : create id config seed = .ok new)
    (calls : List (Call A σ τ)) (w : σ) : (session calls (w, new)).2.2.Sound := by
  refine session_keeps (P := Sound) ?_ ?_ calls w (sound_of_create made)
  · intro s steps sound
    exact plan_keeps (fun planned plans => sound.plans counts plans) (by cases s <;> exact sound)
  · intro s s' moves sound
    exact sound.moves moves

theorem Sound.visited_le (sound : s.Sound) : s.visited ≤ s.timesteps.length := by
  cases s with
  | pndm | ddim | ddpm => exact Nat.zero_le _
  | euler | eulerAncestral | linearMultistep => exact SigmaTrack.Sound.visited_le sound

/-- While a timestep is left, the scheduler is ready for any timestep of the pass. -/
theorem Sound.readyFor_step (sound : s.Sound) (fit : ∀ x ∈ s.remembered, fits x)
    (member : timestep ∈ s.timesteps) (left : s.visited < s.timesteps.length) :
    ∃ later, s.ReadyFor fits (timestep :: later) := by
  have single : ∀ {line : Timeline A}, line.Sound → timestep ∈ line.timesteps →
      line.Ready [timestep] := fun sound member =>
    List.forall_mem_singleton.mpr (sound.ready _ member)
  cases s with
  | pndm s => exact ⟨[], .pndm (single sound member) fit⟩
  | ddim s => exact ⟨[], .ddim (single sound member)⟩
  | ddpm s => exact ⟨[], .ddpm (single sound member)⟩
  | euler s =>
      obtain ⟨i, later, ready⟩ := SigmaTrack.Sound.ready_step sound member left
      exact ⟨later, .euler ready⟩
  | eulerAncestral s =>
      obtain ⟨i, later, ready⟩ := SigmaTrack.Sound.ready_step sound member left
      exact ⟨later, .eulerAncestral ready⟩
  | linearMultistep s =>
      obtain ⟨i, later, ready⟩ := SigmaTrack.Sound.ready_step sound member left
      exact ⟨later, .linearMultistep ready fit⟩

/-- Before its first timestep, the scheduler is ready for the whole pass. -/
theorem Sound.readyFor_pass (sound : s.Sound) (fit : ∀ x ∈ s.remembered, fits x)
    (planned : s.timesteps ≠ []) (start : s.visited = 0) : s.ReadyFor fits s.timesteps := by
  cases s with
  | pndm s => exact .pndm sound.ready fit
  | ddim s => exact .ddim sound.ready
  | ddpm s => exact .ddpm sound.ready
  | euler s => exact .euler (SigmaTrack.Sound.ready_pass sound planned start)
  | eulerAncestral s => exact .eulerAncestral (SigmaTrack.Sound.ready_pass sound planned start)
  | linearMultistep s =>
      exact .linearMultistep (SigmaTrack.Sound.ready_pass sound planned start) fit

/-- Later on, it is ready for as many timesteps as there are behind its place. -/
theorem Sound.readyFor_rest (sound : s.Sound) (fit : ∀ x ∈ s.remembered, fits x)
    (planned : s.timesteps ≠ []) (begun : s.visited ≠ 0) :
    s.ReadyFor fits (s.timesteps.take (s.timesteps.length - s.visited)) := by
  cases s with
  | pndm | ddim | ddpm => exact absurd rfl begun
  | euler s => exact .euler (SigmaTrack.Sound.ready_rest sound planned begun)
  | eulerAncestral s => exact .eulerAncestral (SigmaTrack.Sound.ready_rest sound planned begun)
  | linearMultistep s =>
      exact .linearMultistep (SigmaTrack.Sound.ready_rest sound planned begun) fit

end Scheduler

end Diffusion
