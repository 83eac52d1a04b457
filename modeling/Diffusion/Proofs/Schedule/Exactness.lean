import Diffusion.Proofs.Schedule.Leading
import Diffusion.Scheduler.Denoising
import Diffusion.Scheduler.Pndm
import Diffusion.Scheduler.SigmaTrack
import Mathlib.Algebra.Order.Ring.Nat

/-!
Accepted passes, place by place, in an arithmetic that has all the counts of the training range.

Such a pass is computed without rounding: its timesteps are the numbers they should be, they stay
inside the tables, and a step leads from each of them to the next. Main statements:
`exists_leadingTimesteps_iff`, which says how many steps are accepted, and `exactPass_of_accepted`.
-/

namespace Diffusion

variable {A : Arithmetic} {σ τ : Type}

/-- Counts up to a limit are elements: the integer part of each is the count, and they are ordered
as counts. -/
structure Arithmetic.CountsExactly (A : Arithmetic) (limit : Nat) : Prop where
  truncate : ∀ n ≤ limit, A.truncate (A.elemOfNat n) = n
  below : ∀ m ≤ limit, ∀ n ≤ limit, A.below (A.elemOfNat m) (A.elemOfNat n) = decide (m < n)

theorem whole_countsExactly (limit : Nat) : whole.CountsExactly limit where
  truncate _ _ := rfl
  below _ _ _ _ := decide_eq_decide.mpr Int.ofNat_lt

/-! ### Steps by the cumulative alphas at their ends -/

/-- The step of the implicit method from one cumulative alpha to another. -/
def Ddim.between (B : Backend A σ τ) (predicts : PredictionType) (alpha alphaNext : A.Wide)
    (output sample : τ) : Action σ τ := do
  let (clean, noise) ← cleanAndNoise B predicts alpha output sample
  B.weightedSum [(A.narrow (A.sqrt alphaNext), clean), (A.narrow (A.sqrt (1 - alphaNext)), noise)]

/-- The step of the probabilistic method from one cumulative alpha to another. Noise is added with
the given seed, if there is one. -/
def Ddpm.between (B : Backend A σ τ) (predicts : PredictionType) (alpha alphaNext : A.Wide)
    (seed : Option UInt64) (output sample : τ) : Action σ τ := do
  let current := alpha / alphaNext
  let (clean, _) ← cleanAndNoise B predicts alpha output sample
  let cleanWeight := A.sqrt alphaNext * (1 - current) / (1 - alpha)
  let sampleWeight := A.sqrt current * (1 - alphaNext) / (1 - alpha)
  let mean ← B.weightedSum [(A.narrow cleanWeight, clean), (A.narrow sampleWeight, sample)]
  match seed with
  | some seed => addNoise B seed (A.narrow (A.sqrt (variance alpha alphaNext))) mean sample
  | none => return mean

/-- The step of the pseudo numerical method from one cumulative alpha to another, by the outputs
remembered. -/
def Pndm.between (B : Backend A σ τ) (predicts : PredictionType) (alpha alphaNext : A.Wide)
    (outputs : List τ) (sample : τ) : Action σ τ := do
  let output ← combined B outputs
  let noise ← noiseOf B predicts alpha output sample
  B.weightedSum
    [(A.narrow (A.sqrt (alphaNext / alpha)), sample),
     (A.narrow (noiseWeight alpha alphaNext), noise)]

/-- The step of the pseudo numerical method from one cumulative alpha to another, by the one output
that stands for those remembered. -/
def Pndm.transfer (B : Backend A σ τ) (predicts : PredictionType) (alpha alphaNext : A.Wide)
    (output sample : τ) : Action σ τ := do
  let noise ← noiseOf B predicts alpha output sample
  B.weightedSum
    [(A.narrow (A.sqrt (alphaNext / alpha)), sample),
     (A.narrow (noiseWeight alpha alphaNext), noise)]

theorem Pndm.between_eq_bind (B : Backend A σ τ) (predicts : PredictionType)
    (alpha alphaNext : A.Wide) (outputs : List τ) (sample : τ) :
    between B predicts alpha alphaNext outputs sample =
      combined B outputs >>= fun output => transfer B predicts alpha alphaNext output sample :=
  rfl

section

variable (B : Backend A σ τ) {line : Timeline A} {timestep : A.Elem} {t next : Int}

theorem Ddim.advance_eq_between (here : A.truncate timestep = t) (found : line.next t = .ok next)
    (output sample : τ) :
    (Ddim.mk line).advance B output timestep sample =
      between B line.schedule.config.predictionType
        (line.schedule.alphaProd t line.schedule.finalAlpha)
        (line.schedule.alphaProd next line.schedule.finalAlpha) output sample := by
  unfold advance
  rw [here]
  dsimp only
  rw [found]
  rfl

theorem Ddpm.advance_eq_between (here : A.truncate timestep = t) (found : line.next t = .ok next)
    (seed : UInt64) (steps : Nat) (output sample : τ) :
    (Ddpm.mk line seed steps).advance B output timestep sample =
      between B line.schedule.config.predictionType (line.schedule.alphaProd t 1)
        (line.schedule.alphaProd next 1) (if 0 < t then some (stepSeed seed steps) else none)
        output sample := by
  unfold advance
  rw [here]
  dsimp only
  rw [found]
  by_cases noisy : 0 < t <;> simp only [noisy, if_true, if_false] <;> rfl

theorem Pndm.advance_eq_between (here : A.truncate timestep = t) (found : line.next t = .ok next)
    (outputs : List τ) (sample : τ) :
    (Pndm.mk line outputs).advance B timestep sample =
      between B line.schedule.config.predictionType
        (line.schedule.alphaProd t line.schedule.finalAlpha)
        (line.schedule.alphaProd next line.schedule.finalAlpha) outputs sample := by
  unfold advance
  rw [here]
  dsimp only
  rw [found]
  rfl

end

namespace NoiseSchedule

variable {config : ScheduleConfig A} {s : NoiseSchedule A} {steps k limit : Nat}
  {timesteps : List A.Elem}

/-! ### Acceptance -/

/-- A pass is accepted exactly if it has a step, no more steps than there are training timesteps,
and its largest timestep is one of them. -/
theorem exists_leadingTimesteps_iff
    (word : s.config.numTrainTimesteps + s.config.stepsOffset < Halt.wordLimit) :
    (∃ timesteps, s.leadingTimesteps steps = .ok timesteps) ↔
      0 < steps ∧ steps ≤ s.config.numTrainTimesteps ∧
        (steps - 1) * (s.config.numTrainTimesteps / steps) + s.config.stepsOffset <
          s.config.numTrainTimesteps := by
  constructor
  · rintro ⟨timesteps, accepted⟩
    have positive := (leadingTimesteps_of_ok accepted).1
    have inside := (leadingTimesteps_inside accepted).2
    rw [stepRatio, Nat.max_eq_left positive] at inside
    exact ⟨positive, steps_le_numTrainTimesteps accepted, inside⟩
  · rintro ⟨positive, few, inside⟩
    have ratio : s.stepRatio steps = s.config.numTrainTimesteps / steps := by
      rw [stepRatio, Nat.max_eq_left positive]
    have apart : s.stepRatio steps ≠ 0 := by
      rw [ratio]
      exact (Nat.div_pos few positive).ne'
    have counted : Halt.checked ((steps - 1) * s.stepRatio steps + s.config.stepsOffset) =
        .ok ((steps - 1) * s.stepRatio steps + s.config.stepsOffset) := by
      refine Halt.checked_eq_ok_iff.mpr ⟨?_, rfl⟩
      rw [ratio]
      omega
    unfold leadingTimesteps
    rw [if_neg positive.ne']
    dsimp only
    rw [if_neg apart, counted, Halt.bind_ok, if_neg (by rw [ratio]; omega)]
    exact ⟨_, rfl⟩

/-! ### Lookups -/

theorem size_alphasCumprod (scheduled : ofConfig config = .ok s) :
    s.alphasCumprod.size = s.config.numTrainTimesteps := by
  unfold ofConfig at scheduled
  split at scheduled
  · cases scheduled
  · split at scheduled
    · cases scheduled
    · cases scheduled
      rw [size_runningProducts, Array.size_map, size_betasOf]

/-- The cumulative alpha at a training timestep, where no entry of the table stands for another. -/
def alphaAt? (s : NoiseSchedule A) (timestep : Int) (final : A.Wide) : Option A.Wide :=
  if timestep < 0 then some final else s.alphasCumprod[timestep.toNat]?

theorem getElem?_alphasCumprod {t : Nat} (inside : t < s.alphasCumprod.size) :
    s.alphasCumprod[t]? = some (s.clampedAlpha t) := by
  rw [Array.getElem?_eq_getElem inside]
  simp only [clampedAlpha, Nat.min_eq_left (Nat.le_sub_one_of_lt inside)]

@[simp] theorem alphaAt?_natCast (t : Nat) (final : A.Wide) :
    s.alphaAt? t final = s.alphasCumprod[t]? := by
  rw [alphaAt?, if_neg (by omega), Int.toNat_natCast]

/-- Inside the table nothing is clamped. -/
theorem alphaAt?_eq {timestep : Int} (inside : timestep < s.alphasCumprod.size) (final : A.Wide) :
    s.alphaAt? timestep final = some (s.alphaProd timestep final) := by
  unfold alphaAt? alphaProd
  split
  · rfl
  · exact getElem?_alphasCumprod (by omega)

/-! ### The pass -/

/-- The line of a pass. -/
def passLine (s : NoiseSchedule A) (steps : Nat) (timesteps : List A.Elem) : Timeline A :=
  ⟨s, timesteps, s.stepRatio steps⟩

/-- The cumulative alphas that the step at a place of a pass goes between. Both stand in the table,
but for the end of a step past the start of the training range. The end of a step that is not the
last is where the next one begins. -/
structure Ends (s : NoiseSchedule A) (steps k : Nat) (final alpha alphaNext : A.Wide) : Prop where
  start : s.alphasCumprod[s.leading steps k]? = some alpha
  stop : s.alphaAt? ((s.leading steps k : Int) - s.stepRatio steps) final = some alphaNext
  meets : k + 1 < steps → s.alphasCumprod[s.leading steps (k + 1)]? = some alphaNext

/-- A pass of a number of steps, computed without rounding. -/
structure ExactPass (s : NoiseSchedule A) (steps : Nat) (timesteps : List A.Elem) : Prop where
  length : timesteps.length = steps
  ratio : s.stepRatio steps = s.config.numTrainTimesteps / steps
  apart : 1 ≤ s.stepRatio steps
  entry : ∀ k timestep, timesteps[k]? = some timestep →
    timestep = A.elemOfNat ((steps - 1 - k) * s.stepRatio steps + s.config.stepsOffset) ∧
      A.truncate timestep = ((steps - 1 - k) * s.stepRatio steps + s.config.stepsOffset : Nat)
  falling : timesteps.Pairwise fun timestep later => A.below later timestep = true
  inside : ∀ timestep ∈ timesteps, (s.config.stepsOffset : Int) ≤ A.truncate timestep ∧
    A.truncate timestep < s.config.numTrainTimesteps
  /-- The way back from a timestep is to the next one. -/
  back : ∀ k timestep next, timesteps[k]? = some timestep → timesteps[k + 1]? = some next →
    A.truncate timestep - s.stepRatio steps = A.truncate next ∧
      (s.passLine steps timesteps).next (A.truncate timestep) = .ok (A.truncate next)
  /-- No lookup at a timestep or before it is clamped. -/
  lookups : ∀ timestep ∈ timesteps, ∀ t ≤ A.truncate timestep, ∀ final,
    s.alphaAt? t final = some (s.alphaProd t final)
  sigmas : ∀ timestep ∈ timesteps, ∃ alpha,
    s.alphasCumprod[(A.truncate timestep).toNat]? = some alpha ∧
      s.sigmaAt (A.truncate timestep).toNat = A.sqrt ((1 - alpha) / alpha)
  /-- What the methods over cumulative alphas plan for this number of steps. -/
  planned : ∀ line : Timeline A, line.schedule = s →
    line.plan steps = .ok (s.passLine steps timesteps)
  ddim : ∀ k timestep, timesteps[k]? = some timestep →
    ∃ alpha alphaNext, s.Ends steps k s.finalAlpha alpha alphaNext ∧
      ∀ (σ τ : Type) (B : Backend A σ τ) output sample,
        (Ddim.mk (s.passLine steps timesteps)).advance B output timestep sample =
          Ddim.between B s.config.predictionType alpha alphaNext output sample
  ddpm : ∀ k timestep, timesteps[k]? = some timestep →
    ∃ alpha alphaNext, s.Ends steps k 1 alpha alphaNext ∧
      ∀ (σ τ : Type) (B : Backend A σ τ) seed done output sample,
        (Ddpm.mk (s.passLine steps timesteps) seed done).advance B output timestep sample =
          Ddpm.between B s.config.predictionType alpha alphaNext
            (if 0 < s.leading steps k then some (stepSeed seed done) else none) output sample
  pndm : ∀ k timestep, timesteps[k]? = some timestep →
    ∃ alpha alphaNext, s.Ends steps k s.finalAlpha alpha alphaNext ∧
      ∀ (σ τ : Type) (B : Backend A σ τ) outputs sample,
        (Pndm.mk (s.passLine steps timesteps) outputs).advance B timestep sample =
          Pndm.between B s.config.predictionType alpha alphaNext outputs sample
  /-- What the methods over sigmas find for a place of the pass. -/
  track : ∀ track : SigmaTrack A, track.schedule = s → ∃ planned, track.plan steps = .ok planned ∧
    planned.timesteps = timesteps ∧ ∀ k < steps, ∃ alpha,
      s.alphasCumprod[s.leading steps k]? = some alpha ∧
        planned.sigma k = .ok (A.sqrt ((1 - alpha) / alpha))

section

variable (exactly : A.CountsExactly limit)
  (few : s.config.numTrainTimesteps ≤ limit)
  (accepted : s.leadingTimesteps steps = .ok timesteps)

include exactly few accepted

theorem truncate_leading : A.truncate (A.elemOfNat (s.leading steps k)) = s.leading steps k :=
  exactly.truncate _ ((leading_lt accepted).le.trans few)

theorem truncate_of_mem {timestep : A.Elem} (member : timestep ∈ timesteps) :
    ∃ k < steps, A.truncate timestep = s.leading steps k := by
  obtain ⟨k, found⟩ := List.mem_iff_getElem?.mp member
  obtain ⟨inside, rfl⟩ := getElem?_leadingTimesteps accepted found
  exact ⟨k, inside, truncate_leading exactly few accepted⟩

theorem pairwise_below :
    timesteps.Pairwise fun timestep later => A.below later timestep = true := by
  have apart := (leadingTimesteps_inside accepted).1
  have small (k : Nat) : s.leading steps k ≤ limit := (leading_lt accepted).le.trans few
  rw [leadingTimesteps_eq accepted, List.pairwise_map]
  refine List.pairwise_lt_range.imp_of_mem fun _ later order => ?_
  rw [exactly.below _ (small _) _ (small _)]
  exact decide_eq_true (leading_lt_leading apart order (List.mem_range.mp later))

end

/-- The way back from a timestep of the training range is a signed word. -/
theorem next_passLine (room : s.config.numTrainTimesteps < tableLimit) (t : Nat) :
    (s.passLine steps timesteps).next t = .ok ((t : Int) - s.stepRatio steps) := by
  have ratio := s.stepRatio_le steps
  have limit : tableLimit < 0x8000000000000000 := by decide
  exact if_pos (show -0x8000000000000000 ≤ (t : Int) - s.stepRatio steps by omega)

theorem ends_of_accepted (size : s.alphasCumprod.size = s.config.numTrainTimesteps)
    (accepted : s.leadingTimesteps steps = .ok timesteps) (final : A.Wide) :
    s.Ends steps k final (s.alphaProd (s.leading steps k) final)
      (s.alphaProd ((s.leading steps k : Int) - s.stepRatio steps) final) := by
  have table (k : Nat) : s.alphasCumprod[s.leading steps k]? =
      some (s.alphaProd (s.leading steps k) final) := by
    rw [← alphaAt?_natCast _ final]
    exact alphaAt?_eq (by rw [size]; exact Int.ofNat_lt.mpr (leading_lt accepted)) final
  refine ⟨table k, alphaAt?_eq ?_ final, fun more => ?_⟩
  · have here := leading_lt (k := k) accepted
    omega
  · rw [leading_sub_ratio more]
    exact table (k + 1)

theorem exists_track (exactly : A.CountsExactly limit)
    (few : s.config.numTrainTimesteps ≤ limit)
    (size : s.alphasCumprod.size = s.config.numTrainTimesteps)
    (accepted : s.leadingTimesteps steps = .ok timesteps) (track : SigmaTrack A)
    (same : track.schedule = s) :
    ∃ planned, track.plan steps = .ok planned ∧ planned.timesteps = timesteps ∧
      ∀ k < steps, ∃ alpha, s.alphasCumprod[s.leading steps k]? = some alpha ∧
        planned.sigma k = .ok (A.sqrt ((1 - alpha) / alpha)) := by
  subst same
  have plan : track.plan steps = .ok { track with
      timesteps
      sigmas := (timesteps.map fun timestep =>
        track.schedule.sigmaAt (A.truncate timestep).toNat).toArray.push 0
      place := none } := by
    rw [SigmaTrack.plan, accepted]
    rfl
  refine ⟨_, plan, rfl, fun k inside => ?_⟩
  have below : track.schedule.leading steps k < track.schedule.alphasCumprod.size :=
    size ▸ leading_lt accepted
  refine ⟨_, getElem?_alphasCumprod below, Halt.entry_eq_ok_iff.mpr ?_⟩
  have here : timesteps[k]? = some (A.elemOfNat (track.schedule.leading steps k)) := by
    rw [leadingTimesteps_eq accepted, List.getElem?_map, List.getElem?_range inside]
    rfl
  have notLast : k ≠ (timesteps.map fun timestep =>
      track.schedule.sigmaAt (A.truncate timestep).toNat).toArray.size := by
    rw [List.size_toArray, List.length_map, length_leadingTimesteps accepted]
    exact inside.ne
  rw [Array.getElem?_push, if_neg notLast, List.getElem?_toArray, List.getElem?_map, here,
    Option.map_some, truncate_leading exactly few accepted, Int.toNat_natCast]
  rfl

/-- An accepted pass is computed exactly, no lookup for it is clamped, and each of its steps ends
where the next one begins. -/
theorem exactPass_of_accepted (exactly : A.CountsExactly (2 ^ 24))
    (few : config.numTrainTimesteps ≤ 2 ^ 24) (scheduled : ofConfig config = .ok s)
    (accepted : s.leadingTimesteps steps = .ok timesteps) : s.ExactPass steps timesteps := by
  obtain ⟨rfl, room⟩ := config_of_ofConfig scheduled
  have size := size_alphasCumprod scheduled
  have length := length_leadingTimesteps accepted
  obtain ⟨apart, top⟩ := leadingTimesteps_inside accepted
  have positive := (leadingTimesteps_of_ok accepted).1
  have entry {k : Nat} {timestep : A.Elem} (found : timesteps[k]? = some timestep) :
      k < steps ∧ A.truncate timestep = s.leading steps k := by
    obtain ⟨inside, rfl⟩ := getElem?_leadingTimesteps accepted found
    exact ⟨inside, truncate_leading exactly few accepted⟩
  have within {timestep : A.Elem} (member : timestep ∈ timesteps) :
      ∃ k, A.truncate timestep = s.leading steps k ∧
        s.leading steps k < s.alphasCumprod.size := by
    obtain ⟨k, -, same⟩ := truncate_of_mem exactly few accepted member
    exact ⟨k, same, size ▸ leading_lt accepted⟩
  have next (t : Nat) : (s.passLine steps timesteps).next t = .ok ((t : Int) - s.stepRatio steps) :=
    next_passLine room t
  exact {
    length
    ratio := by rw [stepRatio, Nat.max_eq_left positive]
    apart
    entry := fun k timestep found =>
      ⟨(getElem?_leadingTimesteps accepted found).2, (entry found).2⟩
    falling := pairwise_below exactly few accepted
    inside := by
      intro timestep member
      obtain ⟨k, same, below⟩ := within member
      have := s.stepsOffset_le_leading steps k
      omega
    back := by
      intro k timestep after here there
      obtain ⟨-, same⟩ := entry here
      obtain ⟨more, same'⟩ := entry there
      rw [same, same', next, leading_sub_ratio more]
      exact ⟨rfl, rfl⟩
    lookups := by
      intro timestep member t earlier final
      obtain ⟨k, same, below⟩ := within member
      exact alphaAt?_eq (by omega) final
    sigmas := by
      intro timestep member
      obtain ⟨k, same, below⟩ := within member
      rw [same, Int.toNat_natCast]
      exact ⟨_, getElem?_alphasCumprod below, rfl⟩
    planned := by
      rintro line rfl
      rw [Timeline.plan, accepted]
      rfl
    ddim := by
      intro k timestep found
      obtain ⟨-, same⟩ := entry found
      exact ⟨_, _, ends_of_accepted size accepted _, fun _ _ B output sample =>
        Ddim.advance_eq_between B same (next _) output sample⟩
    ddpm := by
      intro k timestep found
      obtain ⟨-, same⟩ := entry found
      refine ⟨_, _, ends_of_accepted size accepted _, fun _ _ B seed done output sample => ?_⟩
      rw [Ddpm.advance_eq_between B same (next _)]
      simp only [Int.natCast_pos]
      rfl
    pndm := by
      intro k timestep found
      obtain ⟨-, same⟩ := entry found
      exact ⟨_, _, ends_of_accepted size accepted _, fun _ _ B outputs sample =>
        Pndm.advance_eq_between B same (next _) outputs sample⟩
    track := exists_track exactly few size accepted }

/-- A pass of three steps in the training range without noise, all timesteps moved up by one. -/
theorem exactPass_noiseless :
    ∃ s, ofConfig { noiseless with stepsOffset := 1 } = .ok s ∧
      s.leadingTimesteps 3 = .ok [(3 : Int), (2 : Int), (1 : Int)] ∧
      s.ExactPass 3 [(3 : Int), (2 : Int), (1 : Int)] := by
  have led : ((ofConfig { noiseless with stepsOffset := 1 }).toOption.bind fun s =>
      (s.leadingTimesteps 3).toOption) = some [(3 : Int), (2 : Int), (1 : Int)] := by
    decide +kernel
  obtain ⟨s, scheduled, accepted⟩ := Option.bind_eq_some_iff.mp led
  have scheduled := Halt.toOption_eq_some_iff.mp scheduled
  have accepted := Halt.toOption_eq_some_iff.mp accepted
  exact ⟨s, scheduled, accepted,
    exactPass_of_accepted (whole_countsExactly _) (by decide) scheduled accepted⟩

end NoiseSchedule

end Diffusion
