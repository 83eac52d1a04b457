import Diffusion.Backend.Tracer
import Diffusion.Proofs.Arithmetic.Exact
import Diffusion.Proofs.Schedule.Exactness
import Diffusion.Proofs.Scheduler.Planned
import Mathlib.Logic.Relation
import Mathlib.Tactic.IntervalCases
import Mathlib.Tactic.NormNum

/-!
What the multistep methods combine.

A run visits timesteps of a pass one after the other, from any place on. Each step of a run combines
what the last four steps brought, newest first: the outputs themselves in the one method, and in the
other their derivatives, each at the sigma of its own step. Main statement: `history_aligned`.
-/

namespace Diffusion

variable {A : Arithmetic} {σ τ α : Type}

/-- Counts below `2 ^ 24` are elements of their own, as they are in single precision. -/
def Arithmetic.TellsCountsApart (A : Arithmetic) : Prop :=
  ∀ m n, m < 2 ^ 24 → n < 2 ^ 24 → (A.same (A.elemOfNat m) (A.elemOfNat n) = true ↔ m = n)

theorem whole_tellsCountsApart : whole.TellsCountsApart := by
  intro m n _ _
  simp

/-! ### The newest entries of a row -/

theorem take_cons_take (n : Nat) (x : α) (older : List α) :
    (x :: older.take n).take n = (x :: older).take n := by
  cases n with
  | zero => rfl
  | succ n => simp [List.take_take]

/-- The newest of some entries up to a place. -/
structure Newest (memory : Nat) (xs : List α) (j : Nat) (newest : List α) : Prop where
  length : newest.length = min (j + 1) memory
  entries : ∀ k, k < min (j + 1) memory → newest[k]? = xs[j - k]?

theorem newest_take_reverse {memory j : Nat} {xs : List α} (inside : j < xs.length) :
    Newest memory xs j ((xs.take (j + 1)).reverse.take memory) := by
  have length : ((xs.take (j + 1)).reverse.take memory).length = min (j + 1) memory := by
    simp only [List.length_take, List.length_reverse]
    omega
  refine ⟨length, fun k below => ?_⟩
  have past : j + 1 - 1 - k = j - k := by omega
  have taken : min (j + 1) xs.length = j + 1 := by omega
  rw [List.getElem?_take_of_lt (by omega), List.getElem?_reverse (by simp; omega),
    List.length_take, taken, past, List.getElem?_take_of_lt (by omega)]

/-! ### Runs -/

/-- A step of a run: what it was given and what it returned, and the backend around it. -/
structure Visit (σ τ : Type) where
  before : σ
  output : τ
  sample : τ
  result : τ
  after : σ

namespace Scheduler

/-- What scaling the input of the network at a timestep may make of a scheduler. -/
def Scales (B : Backend A σ τ) (timestep : A.Elem) (s s' : Scheduler A τ) : Prop :=
  ∃ sample scaled w w', (scaleInput B sample timestep).runOn (w, s) = (.ok scaled, w', s')

/-- A run of successful steps at timesteps. Before each of them the input of the network may be
scaled, and in between anything may happen to the backend. -/
inductive Visits (B : Backend A σ τ) :
    Scheduler A τ → List A.Elem → List (Visit σ τ) → Scheduler A τ → Prop where
  | nil (s : Scheduler A τ) : Visits B s [] [] s
  | cons {s placed next last : Scheduler A τ} {timestep : A.Elem} {timesteps : List A.Elem}
      {visit : Visit σ τ} {visits : List (Visit σ τ)}
      (scaled : Relation.ReflTransGen (Scales B timestep) s placed)
      (stepped : (step B visit.output timestep visit.sample).runOn (visit.before, placed) =
        (.ok visit.result, visit.after, next))
      (rest : Visits B next timesteps visits last) :
      Visits B s (timestep :: timesteps) (visit :: visits) last

end Scheduler

open Scheduler

variable {B : Backend A σ τ} {last : Scheduler A τ} {timesteps : List A.Elem}
  {visits : List (Visit σ τ)} {visit : Visit σ τ} {j : Nat}

/-! ### Outputs -/

/-- Weights of values at `0, -1, -2, ...` that give the integral from `0` to `1` of every power with
fewer than as many factors. -/
def AdamsBashforth (weights : List ℝ) : Prop :=
  ∀ i < weights.length, (weights.mapIdx fun k weight => weight * (-(k : ℝ)) ^ i).sum = 1 / (i + 1)

namespace Pndm

theorem weights_adamsBashforth (conventions : Conventions) {m : Nat} (some : 0 < m) (most : m ≤ 4) :
    AdamsBashforth (weights (exact conventions) m) := by
  have orders : m = 1 ∨ m = 2 ∨ m = 3 ∨ m = 4 := by omega
  rcases orders with rfl | rfl | rfl | rfl
  · change AdamsBashforth [((1 : Nat) : ℝ)]
    intro i below
    simp only [List.length_cons, List.length_nil] at below
    interval_cases i
    norm_num
  · change AdamsBashforth [((3 : Nat) : ℝ) / (2 : Nat), -((1 : Nat) : ℝ) / (2 : Nat)]
    intro i below
    simp only [List.length_cons, List.length_nil] at below
    interval_cases i <;> norm_num
  · change AdamsBashforth [((23 : Nat) : ℝ) / (12 : Nat), -((16 : Nat) : ℝ) / (12 : Nat),
      ((5 : Nat) : ℝ) / (12 : Nat)]
    intro i below
    simp only [List.length_cons, List.length_nil] at below
    interval_cases i <;> norm_num
  · change AdamsBashforth [((55 : Nat) : ℝ) / (24 : Nat), -((59 : Nat) : ℝ) / (24 : Nat),
      ((37 : Nat) : ℝ) / (24 : Nat), -((9 : Nat) : ℝ) / (24 : Nat)]
    intro i below
    simp only [List.length_cons, List.length_nil] at below
    interval_cases i <;> norm_num

theorem eq_of_scales {s : Pndm A τ} {placed : Scheduler A τ} {timestep : A.Elem}
    (scaled : Relation.ReflTransGen (Scales B timestep) (.pndm s) placed) : placed = .pndm s := by
  induction scaled with
  | refl => rfl
  | tail _ last ih =>
      subst ih
      obtain ⟨_, _, _, _, ran⟩ := last
      cases ran
      rfl

theorem of_step {s : Pndm A τ} {next : Scheduler A τ} {output sample result : τ}
    {timestep : A.Elem} {w w' : σ}
    (ran : (Scheduler.step B output timestep sample).runOn (w, .pndm s) = (.ok result, w', next)) :
    ((s.remember output).advance B timestep sample).runOn w = (.ok result, w') ∧
      next = .pndm (s.remember output) := by
  have computed : (Scheduler.step B output timestep sample).runOn (w, .pndm s) =
      ((((s.remember output).advance B timestep sample).runOn w).1,
        (((s.remember output).advance B timestep sample).runOn w).2,
        .pndm (s.remember output)) := rfl
  rw [computed] at ran
  simp only [Prod.mk.injEq] at ran
  exact ⟨Prod.ext ran.1 ran.2.1, ran.2.2.symm⟩

/-- Along a run, each step computes from the outputs of the run so far, followed by older ones. -/
theorem advance_of_visits {s : Pndm A τ} {older : List τ}
    (remembered : s.outputs = older.take memory)
    (ran : Visits B (.pndm s) timesteps visits last) (found : visits[j]? = some visit) :
    ∃ timestep, timesteps[j]? = some timestep ∧
      (advance B ⟨s.line, (((visits.map (·.output)).take (j + 1)).reverse ++ older).take memory⟩
        timestep visit.sample).runOn visit.before = (.ok visit.result, visit.after) := by
  -- Outputs of the run become older ones for the steps after them.
  generalize start : Scheduler.pndm s = scheduler at ran
  induction ran generalizing s older j with
  | nil => cases found
  | @cons _ _ _ _ timestep _ first others scaled stepped rest ih =>
      subst start
      cases eq_of_scales scaled
      obtain ⟨advanced, rfl⟩ := of_step stepped
      have outputs : (s.remember first.output).outputs = (first.output :: older).take memory := by
        rw [remember, remembered, take_cons_take]
      cases j with
      | zero =>
          cases found
          refine ⟨timestep, rfl, ?_⟩
          rw [← advanced]
          exact congrArg (fun outputs => (advance B ⟨s.line, outputs⟩ timestep _).runOn _)
            outputs.symm
      | succ j =>
          obtain ⟨later, atLater, computed⟩ := ih outputs found rfl
          refine ⟨later, atLater, ?_⟩
          rw [List.map_cons, List.take_succ_cons, List.reverse_cons, List.append_assoc]
          exact computed

/-- A step that succeeds goes from the cumulative alpha of its timestep to that of the next. -/
theorem between_of_advance {line : Timeline A} {outputs : List τ} {timestep : A.Elem}
    {sample result : τ} {w w' : σ}
    (ran : (advance B ⟨line, outputs⟩ timestep sample).runOn w = (.ok result, w')) :
    ∃ next, line.next (A.truncate timestep) = .ok next ∧
      (between B line.schedule.config.predictionType
        (line.schedule.alphaProd (A.truncate timestep) line.schedule.finalAlpha)
        (line.schedule.alphaProd next line.schedule.finalAlpha) outputs sample).runOn w =
          (.ok result, w') := by
  cases found : line.next (A.truncate timestep) with
  | error h =>
      rw [advance, Action.runOn_ofExcept_bind, found] at ran
      cases ran
  | ok next =>
      rw [advance_eq_between B rfl found] at ran
      exact ⟨next, rfl, ran⟩

theorem length_weights {m : Nat} (some : 0 < m) (few : m ≤ memory) :
    (weights A m).length = m := by
  match m with
  | 1 | 2 | 3 | 4 => rfl
  | m + 5 => exact absurd few (by unfold memory; omega)

theorem combined_eq (B : Backend A σ τ) {outputs : List τ} {output : τ}
    (first : outputs[0]? = some output) :
    combined B outputs = if outputs.length = 1 then pure output
      else B.weightedSum ((weights A outputs.length).zip outputs) := by
  match outputs with
  | [single] =>
      cases first
      rfl
  | newest :: next :: older => rfl

end Pndm

/-! ### Derivatives -/

namespace LinearMultistep

variable {track : SigmaTrack A} {i : Nat} {rest : List A.Elem} {timestep : A.Elem}

/-- The scheduler is at a place of its pass and remembers these derivatives. -/
inductive At (track : SigmaTrack A) (i : Nat) (rest : List A.Elem) (derivatives : List τ) :
    Scheduler A τ → Prop where
  | intro {place : Option Nat} (ready : SigmaTrack.Ready { track with place } i rest) :
      At track i rest derivatives (.linearMultistep ⟨{ track with place }, derivatives⟩)

theorem At.scales {derivatives : List τ} {s placed : Scheduler A τ}
    (here : At track i (timestep :: rest) derivatives s)
    (scaled : Relation.ReflTransGen (Scales B timestep) s placed) :
    At track i (timestep :: rest) derivatives placed := by
  induction scaled with
  | refl => exact here
  | tail _ last ih =>
      cases ih with
      | @intro place ready =>
          obtain ⟨sample, _, w, _, ran⟩ := last
          have computed : (Scheduler.scaleInput B sample timestep).runOn
              (w, .linearMultistep ⟨{ track with place }, derivatives⟩) =
              let ran := (SigmaTrack.scaleInput B sample timestep).runOn (w, { track with place })
              (ran.1, ran.2.1, .linearMultistep ⟨ran.2.2, derivatives⟩) := rfl
          rw [computed, SigmaTrack.runOn_scaleInput, ready.located_head] at ran
          dsimp only at ran
          split at ran
          · cases ran
          · simp only [Prod.mk.injEq] at ran
            obtain ⟨-, -, rfl⟩ := ran
            exact .intro ready.placed

theorem of_step {derivatives : List τ} {placed next : Scheduler A τ} {output sample result : τ}
    {w w' : σ} (here : At track i (timestep :: rest) derivatives placed)
    (ran : (Scheduler.step B output timestep sample).runOn (w, placed) = (.ok result, w', next)) :
    ∃ sigma derivative between, track.sigma i = .ok sigma ∧
      (track.derivative B sigma output sample).runOn w = (.ok derivative, between) ∧
      (advance B ⟨track, (derivative :: derivatives).take memory⟩ i sample).runOn between =
        (.ok result, w') ∧
      At track (i + 1) rest ((derivative :: derivatives).take memory) next := by
  cases here with
  | @intro place ready =>
      have computed : (Scheduler.step B output timestep sample).runOn
          (w, .linearMultistep ⟨{ track with place }, derivatives⟩) =
          let ran := (step B output timestep sample).runOn (w, ⟨{ track with place }, derivatives⟩)
          (ran.1, ran.2.1, .linearMultistep ran.2.2) := rfl
      rw [computed, runOn_step] at ran
      simp only [ready.located_head] at ran
      split at ran
      · cases ran
      · rename_i sigma found
        split at ran
        · cases ran
        · rename_i derivative between derived
          split at ran
          · rename_i previous after advanced
            cases ran
            exact ⟨sigma, derivative, between, found, derived, advanced, .intro ready.moved⟩
          · cases ran

/-- Along a run, each step derives at its own sigma, and computes from the derivatives of the run so
far, followed by older ones. -/
theorem advance_of_visits {s : Scheduler A τ} {older : List τ}
    (here : At track i rest (older.take memory) s) (part : timesteps <+: rest)
    (ran : Visits B s timesteps visits last) :
    ∃ derivatives : List τ, derivatives.length = visits.length ∧
      ∀ j visit, visits[j]? = some visit → ∃ sigma derivative between,
        track.sigma (i + j) = .ok sigma ∧
        (track.derivative B sigma visit.output visit.sample).runOn visit.before =
          (.ok derivative, between) ∧
        derivatives[j]? = some derivative ∧
        (advance B ⟨track, ((derivatives.take (j + 1)).reverse ++ older).take memory⟩ (i + j)
          visit.sample).runOn between = (.ok visit.result, visit.after) := by
  induction ran generalizing i rest older with
  | nil => exact ⟨[], rfl, nofun⟩
  | cons scaled stepped _ ih =>
      obtain ⟨rest, rfl⟩ := part
      obtain ⟨sigma, derivative, between, found, derived, advanced, next⟩ :=
        of_step (here.scales scaled) stepped
      rw [take_cons_take] at advanced next
      obtain ⟨derivatives, length, each⟩ := ih next (List.prefix_append _ _)
      refine ⟨derivative :: derivatives, congrArg (· + 1) length, ?_⟩
      intro j visit at_j
      cases j with
      | zero =>
          cases at_j
          exact ⟨sigma, derivative, between, found, derived, rfl, advanced⟩
      | succ j =>
          have later := each j visit at_j
          rw [Nat.add_assoc, Nat.add_comm 1 j] at later
          rw [List.take_succ_cons, List.reverse_cons, List.append_assoc]
          exact later

/-- With no more derivatives than sigmas behind the place, all of them count. -/
theorem weightedSum_of_advance {derivatives : List τ} {m : Nat} {sample result : τ} {w w' : σ}
    (length : derivatives.length = m) (few : m ≤ memory) (behind : m ≤ i + 1)
    (ran : (advance B ⟨track, derivatives⟩ i sample).runOn w = (.ok result, w')) :
    ∃ weights : List A.Elem, weights.length = m ∧
      (∀ k, k < m → ∃ c, coefficient track.sigmas m i k = .ok c ∧
        weights[k]? = some (A.narrow c)) ∧
      (B.weightedSum ((1, sample) :: weights.zip derivatives)).runOn w = (.ok result, w') := by
  have order : min (min (i + 1) memory) derivatives.length = m := by omega
  unfold advance at ran
  simp only [order] at ran
  obtain ⟨weights, between, weighed, summed⟩ := Action.of_bind_ok ran
  obtain ⟨computed, rfl⟩ := Prod.mk.inj weighed
  obtain ⟨counted, each⟩ := Halt.of_mapM computed
  rw [List.length_range] at counted
  refine ⟨weights, counted, fun k below => ?_, summed⟩
  obtain ⟨weight, narrowed, entered⟩ := each k k (List.getElem?_range below)
  cases found : coefficient track.sigmas m i k with
  | error h =>
      rw [found] at narrowed
      cases narrowed
  | ok c =>
      rw [found] at narrowed
      cases narrowed
      exact ⟨c, rfl, entered⟩

end LinearMultistep

/-! ### Passes -/

theorem indexForTimestep_getElem {timesteps : List A.Elem} {p : Nat} {timestep : A.Elem}
    (found : timesteps[p]? = some timestep) (same : A.same timestep timestep = true)
    (others : ∀ q other, q < p → timesteps[q]? = some other → A.same other timestep = false) :
    indexForTimestep timesteps timestep = .ok p := by
  obtain ⟨inside, rfl⟩ := List.getElem?_eq_some_iff.mp found
  have position : timesteps.findIdx? (fun t => A.same t timesteps[p]) = some p := by
    apply List.findIdx?_eq_some_iff_getElem.mpr
    refine ⟨inside, same, fun q before => ?_⟩
    rw [others q _ before (List.getElem?_eq_getElem _)]
    exact Bool.false_ne_true
  rw [indexForTimestep, position]

/-- From any of its timesteps on, a planned pass can be visited: the place that is found for the
first of them is its own, since timesteps are different elements. -/
theorem SigmaTrack.ready_of_plan (apart : A.TellsCountsApart) {s planned : SigmaTrack A}
    {steps p : Nat} (accepted : s.plan steps = .ok planned)
    (train : s.schedule.config.numTrainTimesteps ≤ 2 ^ 24) (inside : p < steps) :
    planned.Ready p (planned.timesteps.drop p) := by
  obtain ⟨timesteps, led, rfl⟩ := SigmaTrack.of_plan accepted
  have length := NoiseSchedule.length_leadingTimesteps led
  constructor
  · simp only [List.length_drop, Array.size_push, List.size_toArray, List.length_map, length]
    omega
  · intro timestep due
    have entry : ∀ q, q < steps →
        timesteps[q]? = some (A.elemOfNat (s.schedule.leading steps q)) := by
      intro q below
      rw [NoiseSchedule.leadingTimesteps_eq led, List.getElem?_map, List.getElem?_range below]
      rfl
    have same : timestep = A.elemOfNat (s.schedule.leading steps p) := by
      apply due
      rw [List.head?_drop, entry p inside]
      rfl
    have below : ∀ q, s.schedule.leading steps q < 2 ^ 24 := fun q =>
      Nat.lt_of_lt_of_le (NoiseSchedule.leading_lt led) train
    have found : indexForTimestep timesteps timestep = .ok p := by
      rw [same]
      apply indexForTimestep_getElem (entry p inside)
      · exact (apart _ _ (below p) (below p)).mpr rfl
      · intro q other before at_q
        cases (entry q (by omega)).symm.trans at_q
        apply Bool.eq_false_iff.mpr
        intro equal
        have positions := (apart _ _ (below q) (below p)).mp equal
        have places := NoiseSchedule.leading_injective (NoiseSchedule.leadingTimesteps_inside led).1
          (Nat.lt_trans before inside) inside positions
        omega
    rw [SigmaTrack.located, found]
    rfl

/-- The step sums the outputs of the last steps of a run, each once and with the weights for as many
outputs, or takes a single one as it is, and goes on by that combination to the next cumulative
alpha; this is all that it knows of the run. -/
def Pndm.CombinesNewest (B : Backend A σ τ) (line : Timeline A) (timestep : A.Elem)
    (visits : List (Visit σ τ)) (j : Nat) (visit : Visit σ τ) : Prop :=
  let m := min (j + 1) 4
  let t := A.truncate timestep
  let s := line.schedule
  ∃ newest next, Newest 4 (visits.map (·.output)) j newest ∧ (weights A m).length = m ∧
    line.next t = .ok next ∧
    ((if m = 1 then pure visit.output else B.weightedSum ((weights A m).zip newest)) >>=
      fun combination => transfer B s.config.predictionType (s.alphaProd t s.finalAlpha)
        (s.alphaProd next s.finalAlpha) combination visit.sample).runOn visit.before =
      (.ok visit.result, visit.after)

/-- The step at a place of the pass computes its derivative at the sigma of that place and combines
it with those of the last steps of a run, each once and with the weight of its own sigma. -/
def LinearMultistep.CombinesNewest (B : Backend A σ τ) (track : SigmaTrack A) (i : Nat)
    (derivatives : List τ) (j : Nat) (visit : Visit σ τ) : Prop :=
  let m := min (j + 1) 4
  ∃ (sigma : A.Wide) (derivative : τ) (between : σ) (newest : List τ) (weights : List A.Elem),
    track.sigma i = .ok sigma ∧
    (track.derivative B sigma visit.output visit.sample).runOn visit.before =
      (.ok derivative, between) ∧
    derivatives[j]? = some derivative ∧ Newest 4 derivatives j newest ∧ weights.length = m ∧
    (∀ k, k < m → ∃ c, coefficient track.sigmas m i k = .ok c ∧
      weights[k]? = some (A.narrow c)) ∧
    (B.weightedSum ((1, visit.sample) :: weights.zip newest)).runOn between =
      (.ok visit.result, visit.after)

theorem Pndm.combinesNewest_of_visits {s : Pndm A τ} (start : s.outputs = [])
    (ran : Visits B (.pndm s) timesteps visits last) (found : visits[j]? = some visit) :
    ∃ timestep, timesteps[j]? = some timestep ∧
      CombinesNewest B s.line timestep visits j visit := by
  have nothing : s.outputs = ([] : List τ).take memory := start
  obtain ⟨timestep, at_j, advanced⟩ := advance_of_visits nothing ran found
  rw [List.append_nil] at advanced
  have inside : j < (visits.map (·.output)).length := by
    rw [List.length_map]
    exact (List.getElem?_eq_some_iff.mp found).1
  have newest : Newest 4 (visits.map (·.output)) j
      (((visits.map (·.output)).take (j + 1)).reverse.take memory) := newest_take_reverse inside
  have own : (((visits.map (·.output)).take (j + 1)).reverse.take memory)[0]? =
      some visit.output := by
    rw [newest.entries 0 (by omega), Nat.sub_zero, List.getElem?_map, found]
    rfl
  obtain ⟨next, found, stepped⟩ := between_of_advance advanced
  rw [between_eq_bind, combined_eq B own, newest.length] at stepped
  exact ⟨timestep, at_j, _, next, newest, length_weights (by omega) (Nat.min_le_right _ _), found,
    stepped⟩

theorem LinearMultistep.combinesNewest_of_visits {s : LinearMultistep A τ} {p : Nat}
    {rest : List A.Elem} (start : s.derivatives = []) (ready : s.track.Ready p rest)
    (part : timesteps <+: rest) (ran : Visits B (.linearMultistep s) timesteps visits last) :
    ∃ derivatives : List τ, derivatives.length = visits.length ∧
      ∀ j visit, visits[j]? = some visit →
        CombinesNewest B s.track (p + j) derivatives j visit := by
  have here : At s.track p rest (([] : List τ).take memory) (.linearMultistep s) := by
    obtain ⟨track, derivatives⟩ := s
    cases start
    exact .intro ready
  obtain ⟨derivatives, length, each⟩ := advance_of_visits here part ran
  refine ⟨derivatives, length, fun j visit found => ?_⟩
  obtain ⟨sigma, derivative, between, at_place, derived, remembered, advanced⟩ := each j visit found
  rw [List.append_nil] at advanced
  have newest : Newest 4 derivatives j ((derivatives.take (j + 1)).reverse.take 4) :=
    newest_take_reverse (List.getElem?_eq_some_iff.mp remembered).1
  obtain ⟨weights, counted, weighed, summed⟩ :=
    weightedSum_of_advance newest.length (Nat.min_le_right _ _) (by omega) advanced
  exact ⟨sigma, derivative, between, _, weights, at_place, derived, remembered, newest, counted,
    weighed, summed⟩

/-- The history of a run is aligned with its steps: from any place `p` of a planned pass on, the
`j`-th step combines what the last `min (j + 1) 4` steps of the run brought, newest first. The
weights of outputs are those of Adams and Bashforth. -/
theorem history_aligned (apart : A.TellsCountsApart) (B : Backend A σ τ) :
    (∀ (conventions : Conventions) (m : Nat), 0 < m → m ≤ 4 →
      AdamsBashforth (Pndm.weights (exact conventions) m)) ∧
    (∀ {s planned : Pndm A τ} {last : Scheduler A τ} {steps p : Nat} {timesteps : List A.Elem}
      {visits : List (Visit σ τ)}, (plan steps).runOn (.pndm s) = (.ok (), .pndm planned) →
      timesteps <+: planned.line.timesteps.drop p →
      Visits B (.pndm planned) timesteps visits last →
      ∀ j visit, visits[j]? = some visit → ∃ timestep,
        planned.line.timesteps[p + j]? = some timestep ∧
        Pndm.CombinesNewest B planned.line timestep visits j visit) ∧
    ∀ {s planned : LinearMultistep A τ} {last : Scheduler A τ} {steps p : Nat}
      {timesteps : List A.Elem} {visits : List (Visit σ τ)},
      s.track.schedule.config.numTrainTimesteps ≤ 2 ^ 24 →
      (plan steps).runOn (.linearMultistep s) = (.ok (), .linearMultistep planned) →
      timesteps <+: planned.track.timesteps.drop p →
      Visits B (.linearMultistep planned) timesteps visits last →
      ∃ derivatives : List τ, derivatives.length = visits.length ∧
        ∀ j visit, visits[j]? = some visit →
          LinearMultistep.CombinesNewest B planned.track (p + j) derivatives j visit := by
  refine ⟨fun conventions m some most => Pndm.weights_adamsBashforth conventions some most, ?_, ?_⟩
  · intro s planned last steps p timesteps visits accepted part ran j visit found
    have start : planned.outputs = [] := by
      cases plans_of_ok accepted
      rfl
    obtain ⟨timestep, at_j, combines⟩ := Pndm.combinesNewest_of_visits start ran found
    refine ⟨timestep, ?_, combines⟩
    obtain ⟨later, split⟩ := part
    rw [← List.getElem?_drop, ← split,
      List.getElem?_append_left (List.getElem?_eq_some_iff.mp at_j).1, at_j]
  · intro s planned last steps p timesteps visits train accepted part ran
    obtain ⟨start, plan⟩ : planned.derivatives = [] ∧ s.track.plan steps = .ok planned.track := by
      cases plans_of_ok accepted with
      | linearMultistep plan => exact ⟨rfl, plan⟩
    obtain ⟨-, length, -⟩ := SigmaTrack.length_of_plan plan
    rcases Nat.lt_or_ge p steps with inside | past
    · exact LinearMultistep.combinesNewest_of_visits start
        (SigmaTrack.ready_of_plan apart plan train inside) part ran
    · -- Behind the pass there is nothing to visit.
      rw [List.drop_eq_nil_of_le (length ▸ past), List.prefix_nil] at part
      subst part
      cases ran
      exact ⟨[], rfl, nofun⟩

theorem exists_visits_pair {s : Scheduler A τ} {timestep timestep' : A.Elem} {w w' : σ}
    {x x' result result' : τ} (first : ((step B x timestep x).runOn (w, s)).1 = .ok result)
    (second : ((step B x' timestep' x').runOn
      (w', ((step B x timestep x).runOn (w, s)).2.2)).1 = .ok result') :
    ∃ visits last, visits.length = 2 ∧ Visits B s [timestep, timestep'] visits last := by
  rcases ran : (step B x timestep x).runOn (w, s) with ⟨answer, after, next⟩
  rw [ran] at first second
  rcases ran' : (step B x' timestep' x').runOn (w', next) with ⟨answer', after', last⟩
  rw [ran'] at second
  cases first
  cases second
  exact ⟨[⟨w, x, x, result, after⟩, ⟨w', x', x', result', after'⟩], last, rfl,
    .cons .refl ran (.cons .refl ran' (.nil last))⟩

/-- Recorded steps of both methods at the second and the third of four timesteps. -/
theorem exists_visits_noiseless {id : SchedulerId} (multistep : id = .pndm ∨ id = .lmsDiscrete) :
    ∃ planned visits last, Scheduler.planned id noiseless 0 4 = .ok planned ∧
      planned.timesteps = ([3, 2, 1, 0] : List Int) ∧ visits.length = 2 ∧
      Visits (Backend.tracer whole) planned ([2, 1] : List Int) visits last := by
  let v : Value := ⟨0, [1]⟩
  let w : Recording whole := ⟨#[⟨"sample", [1]⟩], #[]⟩
  have runs : (do
      let planned ← Scheduler.planned id noiseless 0 4
      let _ ← ((step (Backend.tracer whole) v (2 : Int) v).runOn (w, planned)).1
      let _ ← ((step (Backend.tracer whole) v (1 : Int) v).runOn
        (w, ((step (Backend.tracer whole) v (2 : Int) v).runOn (w, planned)).2.2)).1
      return planned.timesteps : Except Halt (List Int)).toOption = some [3, 2, 1, 0] := by
    rcases multistep with rfl | rfl <;> decide +kernel
  obtain ⟨planned, plans, runs⟩ :=
    Halt.bind_eq_ok_iff.mp (Halt.toOption_eq_some_iff.mp runs)
  obtain ⟨_, first, runs⟩ := Halt.bind_eq_ok_iff.mp runs
  obtain ⟨_, second, returned⟩ := Halt.bind_eq_ok_iff.mp runs
  obtain ⟨visits, last, length, ran⟩ := exists_visits_pair first second
  exact ⟨planned, visits, last, plans, Except.ok.inj returned, length, ran⟩

theorem history_aligned_noiseless :
    (∃ (planned : Pndm whole Value) (visits : List (Visit (Recording whole) Value))
      (visit : Visit (Recording whole) Value), visits[1]? = some visit ∧
      Pndm.CombinesNewest (Backend.tracer whole) planned.line (1 : Int) visits 1 visit) ∧
    ∃ (planned : LinearMultistep whole Value) (derivatives : List Value)
      (visit : Visit (Recording whole) Value), derivatives.length = 2 ∧
      LinearMultistep.CombinesNewest (Backend.tracer whole) planned.track 2 derivatives 1
        visit := by
  obtain ⟨-, outputs, derivatives⟩ := history_aligned whole_tellsCountsApart (Backend.tracer whole)
  constructor
  · obtain ⟨planned, visits, last, plans, timesteps, length, ran⟩ :=
      exists_visits_noiseless (.inl rfl)
    obtain ⟨schedule, -, accepted⟩ := Scheduler.planned_eq_ok_iff.mp plans
    obtain ⟨visit, found⟩ : ∃ visit, visits[1]? = some visit :=
      ⟨visits[1], List.getElem?_eq_getElem (by omega)⟩
    cases plans_of_ok accepted with
    | @pndm _ line _ =>
        have part : ([2, 1] : List Int) <+: line.timesteps.drop 1 := by
          change line.timesteps = _ at timesteps
          rw [timesteps]
          exact ⟨[0], rfl⟩
        obtain ⟨timestep, at_place, combines⟩ := outputs accepted part ran 1 visit found
        change line.timesteps[2]? = _ at at_place
        change line.timesteps = _ at timesteps
        rw [timesteps] at at_place
        cases at_place
        exact ⟨_, visits, visit, found, combines⟩
  · obtain ⟨planned, visits, last, plans, timesteps, length, ran⟩ :=
      exists_visits_noiseless (.inr rfl)
    obtain ⟨schedule, scheduled, accepted⟩ := Scheduler.planned_eq_ok_iff.mp plans
    obtain ⟨visit, found⟩ : ∃ visit, visits[1]? = some visit :=
      ⟨visits[1], List.getElem?_eq_getElem (by omega)⟩
    have train : schedule.config.numTrainTimesteps ≤ 2 ^ 24 := by
      rw [(NoiseSchedule.config_of_ofConfig scheduled).1]
      decide
    cases plans_of_ok accepted with
    | @linearMultistep _ track _ =>
        have part : ([2, 1] : List Int) <+: track.timesteps.drop 1 := by
          change track.timesteps = _ at timesteps
          rw [timesteps]
          exact ⟨[0], rfl⟩
        obtain ⟨all, counted, combines⟩ := derivatives train accepted part ran
        exact ⟨_, all, visit, counted.trans length, combines 1 visit found⟩

end Diffusion
