import Diffusion.Proofs.Trace.Oblivious

/-!
No noise is drawn twice.

A step draws from a seed that determines the number of the step and the seed of the scheduler, each
if the other is known, although the sum that makes it wraps around. Main statement: `noise_fresh`.
-/

namespace Diffusion

/-! ### Seeds of steps -/

theorem stepSeed_injective {seed : UInt64} {i j : Nat} (here : i < UInt64.size)
    (there : j < UInt64.size) (same : stepSeed seed i = stepSeed seed j) : i = j := by
  unfold stepSeed at same
  have numbers : UInt64.ofNat i = UInt64.ofNat j := by grind
  have counted := congrArg UInt64.toNat numbers
  rwa [UInt64.toNat_ofNat_of_lt' here, UInt64.toNat_ofNat_of_lt' there] at counted

/-- The seeds of two schedulers stay as far apart in every step. -/
def seedDistance (seed seed' : UInt64) : UInt64 := (seed' - seed) * 0x9E3779B97F4A7C15

theorem stepSeed_eq_add (seed seed' : UInt64) (i : Nat) :
    stepSeed seed' i = stepSeed seed i + seedDistance seed seed' := by
  unfold stepSeed seedDistance
  grind

/-- The factor of the seed is odd, so it has an inverse. -/
theorem eq_of_seedDistance {seed seed' : UInt64} (none : seedDistance seed seed' = 0) :
    seed' = seed := by
  have inverse : (0x9E3779B97F4A7C15 : UInt64) * 0xF1DE83E19937733D = 1 := by decide
  have difference : seedDistance seed seed' * 0xF1DE83E19937733D = seed' - seed := by
    rw [seedDistance, UInt64.mul_assoc, inverse, UInt64.mul_one]
  rw [none, UInt64.zero_mul] at difference
  grind

theorem add_seedDistance_ne {seed seed' : UInt64} (other : seed' ≠ seed) (s : UInt64) :
    s + seedDistance seed seed' ≠ s := by
  intro same
  apply other
  apply eq_of_seedDistance
  grind

/-- Steps of different numbers draw from different seeds. -/
theorem SeedsOf.nodup {id : SchedulerId} {seed : UInt64} {steps : Nat} {seeds : List UInt64}
    (drawn : SeedsOf id seed (List.range steps) seeds) (word : steps ≤ UInt64.size) :
    seeds.Nodup := by
  apply drawn.sublist.nodup
  apply List.Nodup.map_on _ List.nodup_range
  intro i here j there same
  have below := List.mem_range.mp here
  have belowToo := List.mem_range.mp there
  exact stepSeed_injective (by omega) (by omega) same

variable {A : Arithmetic}

theorem Op.noiseSeed?_reseed (f : UInt64 → UInt64) (op : Op A) :
    (op.reseed f).noiseSeed? = op.noiseSeed?.map f := by
  cases op <;> rfl

namespace Program

variable {p q : Program A} {j k : Nat} {s : UInt64}

theorem eq_of_noiseSeed? (distinct : p.noiseSeeds.Nodup) (first : p.noiseSeed? j = some s)
    (second : p.noiseSeed? k = some s) : j = k := by
  have apart := List.pairwise_iff_getElem.mp (List.pairwise_filterMap.mp distinct)
  obtain ⟨op, atFirst, seeded⟩ := Option.bind_eq_some_iff.mp first
  obtain ⟨op', atSecond, seeded'⟩ := Option.bind_eq_some_iff.mp second
  obtain ⟨inside, rfl⟩ := Array.getElem?_eq_some_iff.mp atFirst
  obtain ⟨inside', rfl⟩ := Array.getElem?_eq_some_iff.mp atSecond
  rcases Nat.lt_trichotomy j k with before | same | behind
  · exact absurd rfl (apart j k inside inside' before s seeded s seeded')
  · exact same
  · exact absurd rfl (apart k j inside' inside behind s seeded' s seeded)

theorem Alike.noiseSeed?_eq {f : UInt64 → UInt64} (alike : p.Alike f q) (k : Nat) :
    q.noiseSeed? k = (p.noiseSeed? k).map f := by
  unfold noiseSeed?
  rw [alike.ops, Array.getElem?_map]
  cases p.ops[k]? with
  | none => rfl
  | some op => exact Op.noiseSeed?_reseed f op

end Program

namespace Trace

theorem steps_le_of_planned {id : SchedulerId} {config : ScheduleConfig A} {seed : UInt64}
    {steps : Nat} {scheduler : Scheduler A Value}
    (planned : Scheduler.planned id config seed steps = .ok scheduler) : steps ≤ UInt64.size := by
  obtain ⟨schedule, scheduled, ran⟩ := Scheduler.planned_eq_ok_iff.mp planned
  obtain ⟨rfl, room⟩ := NoiseSchedule.config_of_ofConfig scheduled
  have fits : ∀ timesteps, schedule.leadingTimesteps steps = .ok timesteps →
      steps ≤ UInt64.size := by
    intro timesteps led
    have fewer := NoiseSchedule.steps_le_numTrainTimesteps led
    have limit : NoiseSchedule.tableLimit ≤ UInt64.size := by decide
    omega
  have plans := Scheduler.plans_of_ok ran
  cases id <;> cases plans <;> rename_i accepted <;>
    exact (Halt.bind_eq_ok_iff.mp accepted).elim fun timesteps led => fits timesteps led.1

/-- No noise is reused: all noise of a program is drawn from different seeds, and with another seed
of the scheduler the program draws noise at the same positions, from another seed at each. -/
theorem noise_fresh (counts : A.CountsAreNumbers) {id : SchedulerId} {config : ScheduleConfig A}
    {seed : UInt64} {steps : Nat} {scheduler : Scheduler A Value}
    (planned : Scheduler.planned id config seed steps = .ok scheduler)
    {batch height width embedding : Nat} {shapes : InputShapes}
    (accepted : InputShapes.check batch height width embedding = .ok shapes) (guidance : A.Elem) :
    ((∃ p, (sample scheduler shapes guidance).program = .ok p) ↔
      2 * shapes.batch < Halt.wordLimit) ∧
    ∀ p, (sample scheduler shapes guidance).program = .ok p →
      (∀ j k s, p.noiseSeed? j = some s → p.noiseSeed? k = some s → j = k) ∧
      ∀ seed', seed' ≠ seed → ∃ scheduler' q,
        Scheduler.planned id config seed' steps = .ok scheduler' ∧
        (sample scheduler' shapes guidance).program = .ok q ∧
        ∀ k, (q.noiseSeed? k).isSome = (p.noiseSeed? k).isSome ∧
          ∀ s s', p.noiseSeed? k = some s → q.noiseSeed? k = some s' → s' ≠ s := by
  refine ⟨exists_program_iff counts planned accepted guidance, fun p traced => ⟨?_, ?_⟩⟩
  · intro j k s first second
    have drawn := seedsOf_traced counts planned traced
    exact Program.eq_of_noiseSeed? (drawn.nodup (steps_le_of_planned planned)) first second
  · intro seed' other
    have word := (exists_program_iff counts planned accepted guidance).mp ⟨p, traced⟩
    have planned' := Scheduler.planned_withSeed planned seed'
    obtain ⟨q, traced'⟩ := (exists_program_iff counts planned' accepted guidance).mpr word
    have alike := alike_of_traced (f := (· + seedDistance seed seed')) (stepSeed_eq_add seed seed')
      (Scheduler.withSeed_of_planned planned) traced traced'
    refine ⟨scheduler.withSeed seed', q, planned', traced', fun k => ?_⟩
    rw [alike.noiseSeed?_eq k]
    refine ⟨Option.isSome_map, fun s s' found found' => ?_⟩
    rw [found] at found'
    cases found'
    exact add_seedDistance_ne other s

/-- Four steps of the probabilistic method, of which all but the last draw noise. -/
theorem noise_fresh_noiseless :
    ∃ (scheduler scheduler' : Scheduler whole Value) (p q : Program whole),
      Scheduler.planned .ddpm noiseless 0 4 = .ok scheduler ∧
      InputShapes.check 1 8 8 1 = .ok ⟨1, 8, 8, 1⟩ ∧
      (sample scheduler ⟨1, 8, 8, 1⟩ (2 : Int)).program = .ok p ∧ p.noiseSeeds.length = 3 ∧
      (∀ j k s, p.noiseSeed? j = some s → p.noiseSeed? k = some s → j = k) ∧
      Scheduler.planned .ddpm noiseless 7 4 = .ok scheduler' ∧
      (sample scheduler' ⟨1, 8, 8, 1⟩ (2 : Int)).program = .ok q ∧
      ∀ k, (q.noiseSeed? k).isSome = (p.noiseSeed? k).isSome ∧
        ∀ s s', p.noiseSeed? k = some s → q.noiseSeed? k = some s' → s' ≠ s := by
  have traces : (do
      let scheduler ← Scheduler.planned .ddpm noiseless 0 4
      let p ← (sample scheduler ⟨1, 8, 8, 1⟩ (2 : Int)).program
      return p.noiseSeeds.length : Except Halt Nat).toOption = some 3 := by
    decide +kernel
  obtain ⟨scheduler, planned, rest⟩ :=
    Halt.bind_eq_ok_iff.mp (Halt.toOption_eq_some_iff.mp traces)
  obtain ⟨p, traced, counted⟩ := Halt.bind_eq_ok_iff.mp rest
  have accepted : InputShapes.check 1 8 8 1 = .ok ⟨1, 8, 8, 1⟩ := rfl
  obtain ⟨-, fresh⟩ := noise_fresh whole_countsAreNumbers planned accepted (2 : Int)
  obtain ⟨distinct, others⟩ := fresh p traced
  obtain ⟨scheduler', q, planned', traced', apart⟩ := others 7 (by decide)
  exact ⟨scheduler, scheduler', p, q, planned, accepted, traced, Except.ok.inj counted, distinct,
    planned', traced', apart⟩

end Trace

end Diffusion
