import Diffusion.Proofs.Arithmetic.Unrounded
import Diffusion.Proofs.Scheduler.Ready
import Mathlib.Analysis.SpecialFunctions.Integrals.Basic
import Mathlib.LinearAlgebra.Lagrange
import Mathlib.Topology.Algebra.Polynomial

/-!
The weights of the linear multistep method as integrals.

Simpson's rule loses nothing on a cubic, and the basis polynomials over four sigmas are cubics. So
in an arithmetic that does not round, a weight is the area under its basis polynomial, and the
weights together integrate every polynomial of lower degree than there are sigmas. Main statement:
`coefficients_integrate`.
-/

namespace Diffusion

namespace LinearMultistep

open Polynomial

variable {A : Arithmetic} {value : A.Wide → ℝ}

/-! ### Simpson's rule -/

theorem integral_eval {p : ℝ[X]} (cubic : p.natDegree ≤ 3) (a b : ℝ) :
    ∫ x in a..b, p.eval x =
      ∑ n ∈ Finset.range 4, p.coeff n * ((b ^ (n + 1) - a ^ (n + 1)) / (n + 1)) := by
  have terms : ∀ x, p.eval x = ∑ n ∈ Finset.range 4, p.coeff n * x ^ n :=
    Polynomial.eval_eq_sum_range' (Nat.lt_succ_of_le cubic)
  simp_rw [terms]
  rw [intervalIntegral.integral_finsetSum fun n _ =>
    Continuous.intervalIntegrable (by fun_prop) a b]
  exact Finset.sum_congr rfl fun n _ => by
    rw [intervalIntegral.integral_const_mul, integral_pow]

/-- Over two neighbouring parts the rule is exact. -/
theorem integral_panel {p : ℝ[X]} (cubic : p.natDegree ≤ 3) (x width : ℝ) :
    ∫ y in x..x + 2 * width, p.eval y =
      (p.eval x + 4 * p.eval (x + width) + p.eval (x + 2 * width)) * width / 3 := by
  rw [integral_eval cubic]
  simp only [Polynomial.eval_eq_sum_range' (Nat.lt_succ_of_le cubic), Finset.sum_range_succ,
    Finset.sum_range_zero]
  push_cast
  ring

/-- Inner points of odd place lie within a pair of parts, and those of even place between two
pairs. -/
theorem sum_panels (g : ℕ → ℝ) (m : ℕ) :
    g 0 + g (2 * (m + 1)) +
        ∑ i ∈ Finset.Ico 1 (2 * (m + 1)), (if i % 2 = 1 then 4 else 2) * g i =
      ∑ j ∈ Finset.range (m + 1), (g (2 * j) + 4 * g (2 * j + 1) + g (2 * j + 2)) := by
  induction m with
  | zero => simp; ring
  | succ m ih =>
      -- One more pair turns the old end into a border and adds a middle.
      have grown : 2 * (m + 1 + 1) = 2 * (m + 1) + 1 + 1 := rfl
      have even : ¬ 2 * (m + 1) % 2 = 1 := by omega
      have odd : (2 * (m + 1) + 1) % 2 = 1 := by omega
      rw [Finset.sum_range_succ, ← ih, grown, Finset.sum_Ico_succ_top (by omega),
        Finset.sum_Ico_succ_top (by omega), if_neg even, if_pos odd]
      ring

/-- Simpson's rule on real numbers, over a number of parts that is made even first. -/
theorem value_simpson (unrounded : A.Unrounded value) {f : A.Wide → A.Wide} {g : ℝ → ℝ}
    (follows : ∀ x, value (f x) = g (value x)) {start stop : A.Wide} {parts n : ℕ}
    (made : parts + parts % 2 = n) {width : ℝ} (some : (n : ℝ) ≠ 0)
    (cut : value stop = value start + width * n) :
    value (simpson f start stop parts) =
      (g (value start) + g (value start + width * n) +
        ∑ i ∈ Finset.Ico 1 n, (if i % 2 = 1 then 4 else 2) * g (value start + width * i)) *
          width / 3 := by
  have count : value (A.wideOfNat n) = n := unrounded.ofNat n
  have divided : value ((stop - start) / A.wideOfNat n) = width := by
    rw [unrounded.div _ _ (by rwa [count]), unrounded.sub, count, cut, add_sub_cancel_left,
      mul_div_cancel_right₀ _ some]
  have weights : ∀ i, value (simpsonWeight A i) = if i % 2 = 1 then 4 else 2 := by
    intro i
    unfold simpsonWeight
    split
    · exact unrounded.ofNat 4
    · exact unrounded.ofNat 2
  have three : value (3 : A.Wide) = 3 := unrounded.ofNat 3
  have inner : ((List.range' 1 (n - 1)).map fun i => value (simpsonWeight A i *
        f (start + (stop - start) / A.wideOfNat n * A.wideOfNat i))).sum =
      ∑ i ∈ Finset.Ico 1 n, (if i % 2 = 1 then 4 else 2) * g (value start + width * i) := by
    refine congrArg List.sum (List.map_congr_left fun i _ => ?_)
    rw [unrounded.mul, weights, follows, unrounded.add, unrounded.mul, divided, unrounded.ofNat]
  unfold simpson
  dsimp only
  rw [made, unrounded.div _ _ (by rw [three]; norm_num), three, unrounded.mul, divided,
    unrounded.foldl_add, unrounded.add, follows, follows, inner, cut]

theorem integral_panels {p : ℝ[X]} (cubic : p.natDegree ≤ 3) (start width : ℝ) (m : ℕ) :
    ∫ x in start..start + width * (2 * m : ℕ), p.eval x =
      ∑ j ∈ Finset.range m, (p.eval (start + width * (2 * j : ℕ)) +
        4 * p.eval (start + width * (2 * j + 1 : ℕ)) +
        p.eval (start + width * (2 * j + 2 : ℕ))) * width / 3 := by
  let border (j : ℕ) : ℝ := start + width * (2 * j : ℕ)
  have first : border 0 = start := by simp [border]
  have pair : ∀ j, ∫ x in border j..border (j + 1), p.eval x =
      (p.eval (border j) + 4 * p.eval (start + width * (2 * j + 1 : ℕ)) +
        p.eval (border (j + 1))) * width / 3 := by
    intro j
    have middle : start + width * (2 * j + 1 : ℕ) = border j + width := by
      simp only [border]
      push_cast
      ring
    have next : border (j + 1) = border j + 2 * width := by
      simp only [border]
      push_cast
      ring
    rw [middle, next, integral_panel cubic]
  calc ∫ x in start..border m, p.eval x
    _ = ∫ x in border 0..border m, p.eval x := by rw [first]
    _ = ∑ j ∈ Finset.range m, ∫ x in border j..border (j + 1), p.eval x :=
        (intervalIntegral.sum_integral_adjacent_intervals fun j _ =>
          p.continuous.intervalIntegrable _ _).symm
    _ = _ := Finset.sum_congr rfl fun j _ => pair j

theorem simpson_cubic (unrounded : A.Unrounded value) {f : A.Wide → A.Wide} {p : ℝ[X]}
    (cubic : p.natDegree ≤ 3) (follows : ∀ x, value (f x) = p.eval (value x))
    (start stop : A.Wide) {parts : ℕ} (some : 0 < parts) :
    value (simpson f start stop parts) = ∫ x in value start..value stop, p.eval x := by
  obtain ⟨m, even⟩ : ∃ m, parts + parts % 2 = 2 * (m + 1) :=
    ⟨(parts + parts % 2) / 2 - 1, by omega⟩
  have nonzero : ((2 * (m + 1) : ℕ) : ℝ) ≠ 0 := Nat.cast_ne_zero.mpr (by omega)
  let width : ℝ := (value stop - value start) / (2 * (m + 1) : ℕ)
  have cut : value stop = value start + width * (2 * (m + 1) : ℕ) := by
    rw [div_mul_cancel₀ _ nonzero, add_sub_cancel]
  have panels := sum_panels (fun i => p.eval (value start + width * i)) m
  simp only [Nat.cast_zero, mul_zero, add_zero] at panels
  rw [value_simpson (g := fun x => p.eval x) unrounded follows even nonzero cut, cut,
    integral_panels cubic, panels, Finset.sum_mul, Finset.sum_div]

/-! ### Basis polynomials -/

/-- Interpolating at different nodes and integrating basis polynomials integrates every polynomial
of lower degree than there are nodes. -/
theorem integral_eq_sum_basis {nodes : ℕ → ℝ} {order : ℕ}
    (apart : Set.InjOn nodes (Finset.range order)) {p : ℝ[X]} (small : p.degree < order)
    (a b : ℝ) :
    ∫ x in a..b, p.eval x = ∑ k ∈ Finset.range order,
      (∫ x in a..b, (Lagrange.basis (Finset.range order) nodes k).eval x) * p.eval (nodes k) := by
  have few : p.degree < (Finset.range order).card := by rwa [Finset.card_range]
  have through : ∀ x, p.eval x = ∑ k ∈ Finset.range order,
      (Lagrange.basis (Finset.range order) nodes k).eval x * p.eval (nodes k) := by
    intro x
    conv_lhs => rw [Lagrange.eq_interpolate apart few, Lagrange.interpolate_apply]
    simp only [eval_finsetSum, eval_mul, eval_C, mul_comm]
  calc ∫ x in a..b, p.eval x
    _ = ∫ x in a..b, ∑ k ∈ Finset.range order,
          (Lagrange.basis (Finset.range order) nodes k).eval x * p.eval (nodes k) :=
        intervalIntegral.integral_congr fun x _ => through x
    _ = _ := intervalIntegral.integral_finsetSum fun k _ =>
          Continuous.intervalIntegrable (by fun_prop) a b
    _ = _ := Finset.sum_congr rfl fun k _ => intervalIntegral.integral_mul_const _ _

theorem value_basis (unrounded : A.Unrounded value) (node : ℕ → A.Wide) {order k : ℕ}
    (apart : Set.InjOn (fun j => value (node j)) (Finset.range order)) (below : k < order)
    (x : A.Wide) :
    value (basis (node k) (((List.range order).filter (· ≠ k)).map node) x) =
      (Lagrange.basis (Finset.range order) (fun j => value (node j)) k).eval (value x) := by
  have one : value (1 : A.Wide) = 1 := (unrounded.ofNat 1).trans Nat.cast_one
  have factor : ∀ j ∈ (List.range order).filter (· ≠ k),
      value ((x - node j) / (node k - node j)) =
        (Lagrange.basisDivisor (value (node k)) (value (node j))).eval (value x) := by
    intro j member
    obtain ⟨inside, other⟩ := List.mem_filter.mp member
    have differ : value (node k) - value (node j) ≠ 0 := by
      refine sub_ne_zero.mpr fun same => of_decide_eq_true other ?_
      exact (apart (Finset.mem_range.mpr below)
        (Finset.mem_range.mpr (List.mem_range.mp inside)) same).symm
    rw [unrounded.div _ _ (by rwa [unrounded.sub]), unrounded.sub, unrounded.sub,
      Lagrange.basisDivisor, eval_mul, eval_C, eval_sub, eval_X, eval_C, div_eq_inv_mul]
  unfold basis
  rw [List.foldl_map, unrounded.foldl_mul, one, one_mul, List.map_congr_left factor,
    Lagrange.basis, eval_prod, ← Finset.filter_ne']
  rfl

/-! ### Weights -/

/-- The sigma at a place as a real number, and zero after the last one. -/
def sigmaAt (value : A.Wide → ℝ) (sigmas : Array A.Wide) (j : ℕ) : ℝ := value (sigmas.getD j 0)

theorem sigmaAt_injOn (unrounded : A.Unrounded value) {sigmas : Array A.Wide}
    (different : sigmas.toList.Nodup) {order i : ℕ} (inside : i < sigmas.size)
    (behind : order ≤ i + 1) :
    Set.InjOn (fun k => sigmaAt value sigmas (i - k)) (Finset.range order) := by
  intro k below k' below' same
  have here : k < order := Finset.mem_range.mp below
  have there : k' < order := Finset.mem_range.mp below'
  have entries : ∀ j, (inside : j < sigmas.size) → sigmas.getD j 0 = sigmas.toList[j] :=
    fun j inside => by simp [Array.getD, inside]
  have equal : sigmas.getD (i - k) 0 = sigmas.getD (i - k') 0 := unrounded.injective same
  rw [entries _ (by omega), entries _ (by omega), different.getElem_inj_iff] at equal
  omega

/-- Over different sigmas a weight is the area under its basis polynomial. -/
theorem exists_integrals (unrounded : A.Unrounded value) {sigmas : Array A.Wide}
    (different : sigmas.toList.Nodup) {order i : ℕ} (few : order ≤ 4) (behind : order ≤ i + 1)
    (inside : i + 1 < sigmas.size) :
    ∃ c : ℕ → A.Wide, ∀ k, k < order → coefficient sigmas order i k = .ok (c k) ∧
      value (c k) = ∫ x in sigmaAt value sigmas i..sigmaAt value sigmas (i + 1),
        (Lagrange.basis (Finset.range order) (fun j => sigmaAt value sigmas (i - j)) k).eval x := by
  have entries : ∀ j, j < sigmas.size → Halt.entry sigmas j = .ok (sigmas.getD j 0) :=
    fun j here => Halt.entry_eq_ok_iff.mpr (by simp [Array.getD, here])
  have apart := sigmaAt_injOn unrounded different (Nat.lt_of_succ_lt inside) behind
  refine ⟨_, fun k below => ⟨coefficient_eq entries behind inside below, ?_⟩⟩
  refine simpson_cubic unrounded ?_ (fun x => value_basis unrounded
    (fun j => sigmas.getD (i - j) 0) apart below x) _ _ (show 0 < parts by decide)
  -- There are at most four nodes, so the basis polynomial is a cubic.
  have degree := Lagrange.natDegree_basis apart (Finset.mem_range.mpr below)
  rw [Finset.card_range] at degree
  exact degree.le.trans (by omega)

/-- In an arithmetic that does not round, Simpson's rule is exact on cubics, a weight is the
integral of its basis polynomial, and so the weights integrate every polynomial of lower degree than
the method has order. -/
theorem coefficients_integrate (unrounded : A.Unrounded value) :
    (∀ {f : A.Wide → A.Wide} {p : ℝ[X]}, p.natDegree ≤ 3 →
      (∀ x, value (f x) = p.eval (value x)) → ∀ (start stop : A.Wide) {parts : ℕ}, 0 < parts →
        value (simpson f start stop parts) = ∫ x in value start..value stop, p.eval x) ∧
    ∀ {sigmas : Array A.Wide} {order i : ℕ}, sigmas.toList.Nodup → i + 1 < sigmas.size →
      order ≤ 4 → order ≤ i + 1 →
      let node k := sigmaAt value sigmas (i - k)
      let start := sigmaAt value sigmas i
      let stop := sigmaAt value sigmas (i + 1)
      ∃ c : ℕ → A.Wide,
        (∀ k, k < order → coefficient sigmas order i k = .ok (c k) ∧
          value (c k) =
            ∫ x in start..stop, (Lagrange.basis (Finset.range order) node k).eval x) ∧
        (∀ p : ℝ[X], p.degree < order →
          ∑ k ∈ Finset.range order, value (c k) * p.eval (node k) =
            ∫ x in start..stop, p.eval x) ∧
        (0 < order → ∑ k ∈ Finset.range order, value (c k) = stop - start) := by
  refine ⟨fun cubic follows start stop => simpson_cubic unrounded cubic follows start stop, ?_⟩
  intro sigmas order i different inside few behind node start stop
  obtain ⟨c, weights⟩ := exists_integrals unrounded different few behind inside
  have apart := sigmaAt_injOn unrounded different (Nat.lt_of_succ_lt inside) behind
  have integrates : ∀ p : ℝ[X], p.degree < order →
      ∑ k ∈ Finset.range order, value (c k) * p.eval (node k) = ∫ x in start..stop, p.eval x := by
    intro p small
    rw [integral_eq_sum_basis apart small]
    exact Finset.sum_congr rfl fun k member => by rw [(weights k (Finset.mem_range.mp member)).2]
  refine ⟨c, weights, integrates, fun some => ?_⟩
  have constant : (1 : ℝ[X]).degree < order := by
    rw [degree_one]
    exact_mod_cast some
  have length := integrates 1 constant
  simp only [eval_one, mul_one, intervalIntegral.integral_const, smul_eq_mul] at length
  exact length

/-- The cube from 0 to 2, cut into three parts, and the weights of the second step of a pass over
unequally spaced sigmas. -/
theorem coefficients_integrate_fourHalved :
    ((simpson (A := rational) (fun x => x * x * x) (0 : ℚ) (2 : ℚ) 3 : ℚ) : ℝ) =
        ∫ x in ((0 : ℚ) : ℝ)..((2 : ℚ) : ℝ), (X ^ 3 : ℝ[X]).eval x ∧
      ∃ c : ℕ → ℚ,
        (∀ k, k < 2 → coefficient (A := rational) #[(4 : ℚ), (2 : ℚ), (1 : ℚ), (0 : ℚ)] 2 1 k =
          .ok (c k)) ∧
        (c 0 * 2 + c 1 * 4 : ℝ) = ∫ x in (2 : ℝ)..1, x ∧ (c 0 + c 1 : ℝ) = 1 - 2 := by
  obtain ⟨cubics, weights⟩ := coefficients_integrate rational_unrounded
  have cube : ∀ x : ℚ, ((x * x * x : ℚ) : ℝ) = (X ^ 3 : ℝ[X]).eval (x : ℝ) := by
    intro x
    rw [eval_pow, eval_X]
    push_cast
    ring
  have different : #[(4 : ℚ), (2 : ℚ), (1 : ℚ), (0 : ℚ)].toList.Nodup := by decide
  obtain ⟨c, each, integrates, length⟩ :=
    @weights _ 2 1 different (by decide) (by decide) (by decide)
  have linear : (X : ℝ[X]).degree < (2 : ℕ) := by
    rw [degree_X]
    exact Nat.one_lt_cast.mpr one_lt_two
  have second := integrates X linear
  have total := length two_pos
  have places : sigmaAt (A := rational) (fun x : ℚ => (x : ℝ)) #[4, 2, 1, 0] 0 = 4 ∧
      sigmaAt (A := rational) (fun x : ℚ => (x : ℝ)) #[4, 2, 1, 0] 1 = 2 ∧
      sigmaAt (A := rational) (fun x : ℚ => (x : ℝ)) #[4, 2, 1, 0] 2 = 1 := by
    simp [sigmaAt]
  simp only [Finset.sum_range_succ, Finset.sum_range_zero, zero_add, eval_X, Nat.sub_zero,
    Nat.sub_self, Nat.reduceAdd, places] at second total
  have cubed : ((X ^ 3 : ℝ[X])).natDegree ≤ 3 := (natDegree_X_pow 3).le
  exact ⟨cubics cubed cube _ _ (by decide), c, fun k below => (each k below).1, second, total⟩

end LinearMultistep

end Diffusion
