import Diffusion.Proofs.Arithmetic.Exact
import Diffusion.Proofs.Schedule.Leading

/-!
Cumulative alphas in exact numbers.

With betas strictly between zero and one, what is left of the clean sample gets less with every
training timestep and never runs out. `passAlpha` is the row of alphas that a pass goes through,
ending with one. Main statement: `decays_of_ofConfig`.
-/

namespace Diffusion

variable {conventions : Conventions}

/-- All running products stay below the product so far, and above zero, and they get smaller. -/
theorem toList_productsOnto (conventions : Conventions) (done : Array ℝ) {product : ℝ}
    (positive : 0 < product) {factors : List ℝ}
    (proper : ∀ factor ∈ factors, 0 < factor ∧ factor < 1) :
    ∃ later : List ℝ,
      (productsOnto (A := exact conventions) done product factors).toList =
        done.toList ++ later ∧
      (∀ x ∈ later, 0 < x ∧ x < product) ∧ later.Pairwise (· > ·) := by
  -- The product so far is arbitrary, since it bounds whatever comes after it.
  induction factors generalizing done product with
  | nil => exact ⟨[], (List.append_nil _).symm, nofun, .nil⟩
  | cons factor rest ih =>
      obtain ⟨first, others⟩ := List.forall_mem_cons.mp proper
      have next : 0 < product * factor := mul_pos positive first.1
      have below : product * factor < product := mul_lt_of_lt_one_right positive first.2
      obtain ⟨later, products, inside, falling⟩ := ih (done.push (product * factor)) next others
      refine ⟨product * factor :: later, ?_, ?_, ?_⟩
      · rw [Array.toList_push, List.append_assoc] at products
        exact products
      · intro x member
        rcases List.mem_cons.mp member with rfl | member
        · exact ⟨next, below⟩
        · exact ⟨(inside x member).1, (inside x member).2.trans below⟩
      · exact List.pairwise_cons.mpr ⟨fun x member => (inside x member).2, falling⟩

/-! ### Noise levels -/

/-- The noise level of a sample at a cumulative alpha. -/
noncomputable def levelOf (alpha : ℝ) : ℝ := √((1 - alpha) / alpha)

theorem levelOf_one : levelOf 1 = 0 := by
  simp [levelOf]

theorem levelOf_eq_div {alpha : ℝ} (positive : 0 < alpha) :
    levelOf alpha = √(1 - alpha) / √alpha := by
  rw [levelOf, Real.sqrt_div' _ positive.le]

theorem levelOf_le_levelOf {alpha alpha' : ℝ} (positive : 0 < alpha) (order : alpha ≤ alpha') :
    levelOf alpha' ≤ levelOf alpha := by
  apply Real.sqrt_le_sqrt
  rw [div_le_div_iff₀ (positive.trans_le order) positive]
  nlinarith

theorem sqrt_levelOf {alpha : ℝ} (positive : 0 < alpha) (most : alpha ≤ 1) :
    √(levelOf alpha * levelOf alpha + 1) = 1 / √alpha := by
  have level : levelOf alpha * levelOf alpha = (1 - alpha) / alpha :=
    Real.mul_self_sqrt (div_nonneg (sub_nonneg.mpr most) positive.le)
  have whole : (1 - alpha) / alpha + 1 = 1 / alpha := by
    field_simp
    ring
  rw [level, whole, Real.sqrt_div zero_le_one, Real.sqrt_one]

namespace NoiseSchedule

/-- The cumulative alphas lie strictly between zero and one and never increase. -/
structure Decays (s : NoiseSchedule (exact conventions)) : Prop where
  inside : ∀ t, 0 < (s.clampedAlpha t : ℝ) ∧ (s.clampedAlpha t : ℝ) < 1
  antitone : ∀ t t', t ≤ t' → (s.clampedAlpha t' : ℝ) ≤ s.clampedAlpha t

theorem alphasCumprod_of_ofConfig {config : ScheduleConfig (exact conventions)}
    {s : NoiseSchedule (exact conventions)} (scheduled : ofConfig config = .ok s) :
    s.alphasCumprod =
      runningProducts ((betasOf config).map fun beta : ℝ => ((1 : Nat) : ℝ) - beta) := by
  unfold ofConfig at scheduled
  split at scheduled
  · cases scheduled
  · split at scheduled
    · cases scheduled
    · cases scheduled
      rfl

/-- Places behind the table stand for its last one. -/
theorem clampedAlpha_eq {s : NoiseSchedule (exact conventions)} {alphas : List ℝ}
    (entries : s.alphasCumprod.toList = alphas) (t : Nat) :
    ∃ below : min t (alphas.length - 1) < alphas.length,
      (s.clampedAlpha t : ℝ) = alphas[min t (alphas.length - 1)] := by
  have size : s.alphasCumprod.size = alphas.length := by rw [← entries, Array.length_toList]
  have below : min t (alphas.length - 1) < alphas.length := by
    have := s.nonempty
    omega
  refine ⟨below, ?_⟩
  simp only [clampedAlpha, size, ← entries, Array.getElem_toList]

theorem decays_of_ofConfig {config : ScheduleConfig (exact conventions)}
    {s : NoiseSchedule (exact conventions)} (scheduled : ofConfig config = .ok s)
    (betas : ∀ beta : ℝ, beta ∈ betasOf config → 0 < beta ∧ beta < 1) : s.Decays := by
  have factors : ∀ factor ∈ ((betasOf config).map fun beta : ℝ => ((1 : Nat) : ℝ) - beta).toList,
      0 < factor ∧ factor < 1 := by
    intro factor member
    obtain ⟨beta, listed, rfl⟩ := Array.mem_map.mp (Array.mem_toList_iff.mp member)
    obtain ⟨above, below⟩ := betas beta listed
    rw [Nat.cast_one]
    constructor <;> linarith
  have one : (0 : ℝ) < ((1 : Nat) : ℝ) := by simp
  obtain ⟨alphas, products, inside, falling⟩ := toList_productsOnto conventions #[] one factors
  have entries : s.alphasCumprod.toList = alphas := by
    rw [alphasCumprod_of_ofConfig scheduled]
    exact products
  constructor
  · intro t
    obtain ⟨below, same⟩ := clampedAlpha_eq entries t
    rw [same]
    have member := inside _ (List.getElem_mem below)
    rw [Nat.cast_one] at member
    exact member
  · intro t t' order
    obtain ⟨below, same⟩ := clampedAlpha_eq entries t
    obtain ⟨below', same'⟩ := clampedAlpha_eq entries t'
    rw [same, same']
    rcases Nat.lt_or_ge (min t (alphas.length - 1)) (min t' (alphas.length - 1)) with
      before | notBefore
    · exact le_of_lt (List.pairwise_iff_getElem.mp falling _ _ below below' before)
    · have equal : min t' (alphas.length - 1) = min t (alphas.length - 1) := by omega
      simp only [equal, le_refl]

/-! ### The alphas of a pass -/

/-- The cumulative alpha at a place of a pass. Past the last timestep no noise is left. -/
noncomputable def passAlpha (s : NoiseSchedule (exact conventions)) (steps k : Nat) : ℝ :=
  if k < steps then s.clampedAlpha (s.leading steps k) else 1

variable {s : NoiseSchedule (exact conventions)} {steps k : Nat}

theorem Decays.passAlpha_pos (decays : s.Decays) (steps k : Nat) : 0 < s.passAlpha steps k := by
  unfold passAlpha
  split
  · exact (decays.inside _).1
  · exact one_pos

theorem Decays.passAlpha_le_one (decays : s.Decays) (steps k : Nat) : s.passAlpha steps k ≤ 1 := by
  unfold passAlpha
  split
  · exact (decays.inside _).2.le
  · exact le_rfl

theorem Decays.passAlpha_lt_one (decays : s.Decays) (inside : k < steps) :
    s.passAlpha steps k < 1 := by
  rw [passAlpha, if_pos inside]
  exact (decays.inside _).2

/-- A pass begins where the most noise is. -/
theorem Decays.passAlpha_zero_le (decays : s.Decays) (some : 0 < steps) (k : Nat) :
    s.passAlpha steps 0 ≤ s.passAlpha steps k := by
  rcases Nat.lt_or_ge k steps with inside | past
  · rw [passAlpha, passAlpha, if_pos some, if_pos inside]
    apply decays.antitone
    apply Nat.add_le_add_right
    apply Nat.mul_le_mul_right
    omega
  · have last : s.passAlpha steps k = 1 := if_neg (Nat.not_lt.mpr past)
    rw [last]
    exact decays.passAlpha_le_one steps 0

end NoiseSchedule

/-- Three training timesteps, each of which leaves a quarter of the clean sample. -/
noncomputable def quarters : ScheduleConfig (exact .silent) where
  numTrainTimesteps := 3
  betaStart := (0.75 : ℝ)
  betaEnd := (0.75 : ℝ)
  betaSpacing := .linear
  stepsOffset := 1
  setAlphaToOne := true
  predictionType := .epsilon

theorem betasOf_quarters :
    (NoiseSchedule.betasOf quarters : Array ℝ) = #[3 / 4, 3 / 4, 3 / 4] := by
  have entries : (NoiseSchedule.betasOf quarters : Array ℝ) = (Array.range 3).map fun i : Nat =>
      ((0.75 : ℝ) + (0.75 - 0.75) / ((2 : Nat) : ℝ) * (i : ℝ)) := rfl
  have places : Array.range 3 = #[0, 1, 2] := by decide
  rw [entries, places]
  norm_num

theorem betas_quarters (beta : ℝ) (listed : beta ∈ NoiseSchedule.betasOf quarters) :
    0 < beta ∧ beta < 1 := by
  rw [betasOf_quarters] at listed
  have same : beta = 3 / 4 := by simpa using listed
  rw [same]
  norm_num

theorem alphasCumprod_quarters {s : NoiseSchedule (exact .silent)}
    (scheduled : NoiseSchedule.ofConfig quarters = .ok s) :
    (s.alphasCumprod : Array ℝ) = #[1 / 4, 1 / 16, 1 / 64] := by
  rw [NoiseSchedule.alphasCumprod_of_ofConfig scheduled, betasOf_quarters]
  change productsOnto (A := exact .silent) #[] ((1 : Nat) : ℝ) _ = _
  simp only [List.map_toArray, List.map_cons, List.map_nil, productsOnto, Nat.cast_one]
  norm_num

theorem clampedAlpha_quarters {s : NoiseSchedule (exact .silent)}
    (scheduled : NoiseSchedule.ofConfig quarters = .ok s) :
    (s.clampedAlpha 0 : ℝ) = 1 / 4 ∧ (s.clampedAlpha 1 : ℝ) = 1 / 16 := by
  have entries := congrArg Array.toList (alphasCumprod_quarters scheduled)
  obtain ⟨_, first⟩ := NoiseSchedule.clampedAlpha_eq entries 0
  obtain ⟨_, second⟩ := NoiseSchedule.clampedAlpha_eq entries 1
  exact ⟨first, second⟩

end Diffusion
