import Diffusion.Proofs.Action
import Diffusion.Proofs.Arithmetic.Ordered
import Diffusion.Run

/-!
The comparison sees every element.

Where the larger of two elements leaves out what is no number, the largest of all differences would
too. It cannot, since a difference that is no number counts as unbounded before any two are
compared. Main statements: `checkParity_maxError_iff`, and of whole runs
`within_of_compareWith_ok`.
-/

namespace Diffusion

namespace Comparison

variable {A : Arithmetic}

/-- The difference of two elements is a number and below a tolerance. -/
def Within (tolerance x y : A.Elem) : Prop :=
  A.isNaN (A.elemAbs (x - y)) = false ∧ A.below (A.elemAbs (x - y)) tolerance

theorem isNaN_elementError (bounds : A.MaxBounds) (x y : A.Elem) :
    A.isNaN (elementError x y) = false := by
  unfold elementError
  split
  · exact bounds.isNaN_unbounded
  · simp_all

theorem below_elementError_iff (bounds : A.MaxBounds) (tolerance x y : A.Elem) :
    A.below (elementError x y) tolerance ↔ Within tolerance x y := by
  unfold elementError Within
  split <;> simp_all [bounds.below_unbounded]

theorem checkParity_eq_ok_iff {error tolerance : A.Elem} :
    checkParity error tolerance = .ok () ↔ A.below error tolerance := by
  unfold checkParity
  split <;> simp_all

theorem shape_of_maxError_ok {actual expected : Tensor A.Elem} {error : A.Elem}
    (measured : maxError actual expected = .ok error) : actual.shape = expected.shape := by
  unfold maxError at measured
  split at measured
  · assumption
  · cases measured

/-- What holds of all combined elements holds at every position. -/
theorem forall_mem_zipWith_iff {α β γ : Type} {f : α → β → γ} {P : γ → Prop} {a : Array α}
    {b : Array β} :
    (∀ z ∈ (Array.zipWith f a b).toList, P z) ↔
      ∀ (i : Nat) (x : α) (y : β), a[i]? = some x → b[i]? = some y → P (f x y) := by
  simp only [Array.mem_toList_iff, Array.mem_iff_getElem?, Array.getElem?_zipWith_eq_some]
  constructor
  · intro every i x y found found'
    exact every _ ⟨i, x, y, found, found', rfl⟩
  · rintro every _ ⟨i, x, y, found, found', rfl⟩
    exact every i x y found found'

/-- The largest difference is below a tolerance when 0 and the difference at every position are. -/
theorem maxError_passes_iff (bounds : A.MaxBounds) {actual expected : Tensor A.Elem}
    (same : actual.shape = expected.shape) (tolerance : A.Elem) :
    (do checkParity (← maxError actual expected) tolerance) = .ok () ↔
      A.below 0 tolerance ∧ ∀ (i : Nat) (x y : A.Elem),
        actual.data[i]? = some x → expected.data[i]? = some y → Within tolerance x y := by
  have numbers : ∀ e ∈ (Array.zipWith elementError actual.data expected.data).toList,
      A.isNaN e = false :=
    forall_mem_zipWith_iff.mpr fun _ x y _ _ => isNaN_elementError bounds x y
  have largest := bounds.below_foldl_iff tolerance numbers bounds.isNaN_zero
  rw [Array.foldl_toList, forall_mem_zipWith_iff] at largest
  rw [maxError, if_pos same]
  simp only [bind, Except.bind, checkParity_eq_ok_iff, largest, below_elementError_iff bounds]

/-- The parity check of machine floats passes when every difference is a number below the
tolerance. -/
theorem checkParity_maxError_iff {actual expected : Tensor Float32} {tolerance : Float32}
    (same : actual.shape = expected.shape) (positive : 0 < tolerance) :
    (do checkParity (A := machine) (← maxError actual expected) tolerance) = .ok () ↔
      ∀ (i : Nat) (x y : Float32), actual.data[i]? = some x → expected.data[i]? = some y →
        (x - y).abs.isNaN = false ∧ (x - y).abs < tolerance := by
  rw [maxError_passes_iff machine_maxBounds same]
  simp only [Within, decide_eq_true_eq, positive, true_and]

/-- The two zeros agree, and one element that is no number, or an infinity against itself, is seen
among others that agree. -/
theorem checkParity_maxError_edges :
    let numbers : Tensor Float32 := ⟨[3], #[0, 1, 2], rfl⟩
    let close : Tensor Float32 := ⟨[3], #[-0, 1.5, 2], rfl⟩
    let broken : Tensor Float32 := ⟨[3], #[0, 0 / 0, 2], rfl⟩
    let infinite : Tensor Float32 := ⟨[3], #[0, 1, 1 / 0], rfl⟩
    (do checkParity (A := machine) (← maxError numbers close) 1) = .ok () ∧
      (do checkParity (A := machine) (← maxError numbers broken) 1) ≠ .ok () ∧
      (do checkParity (A := machine) (← maxError infinite infinite) 1) ≠ .ok () := by
  intro numbers close broken infinite
  have positive : (0 : Float32) < 1 := by decide +kernel
  refine ⟨?_, fun passed => ?_, fun passed => ?_⟩
  · refine (checkParity_maxError_iff (by rfl) positive).mpr ?_
    rintro (_ | _ | _ | i) x y found found' <;> cases found <;> cases found' <;> decide +kernel
  · have everywhere := (checkParity_maxError_iff (by rfl) positive).mp passed
    exact absurd (everywhere 1 1 (0 / 0) rfl rfl).1 (by decide +kernel)
  · have everywhere := (checkParity_maxError_iff (by rfl) positive).mp passed
    exact absurd (everywhere 2 (1 / 0) (1 / 0) rfl rfl).1 (by decide +kernel)

end Comparison

namespace Run

variable {ν α β : Type} {s s' : ν} {before after : World}

theorem of_bind_ok {x : Job (StateT ν (StateM World)) α} {f : α → Job (StateT ν (StateM World)) β}
    {b : β} (chain : ((x >>= f).run.run s).run before = ((.ok b, s'), after)) :
    ∃ a between world, (x.run.run s).run before = ((.ok a, between), world) ∧
      ((f a).run.run between).run world = ((.ok b, s'), after) := by
  change (ExceptT.bindCont f ((x.run.run s).run before).1.1).run ((x.run.run s).run before).1.2
    ((x.run.run s).run before).2 = _ at chain
  rcases ran : (x.run.run s).run before with ⟨⟨answer, between⟩, world⟩
  rw [ran] at chain
  cases answer with
  | error h => cases chain
  | ok a => exact ⟨a, between, world, rfl, chain⟩

/-- A compared run that ends well has an output close to that of the loop at every position. -/
theorem within_of_compareWith_ok {A : Arithmetic} (bounds : A.MaxBounds) {config : RunConfig A}
    {id : SchedulerId} {network : Network A ν} {inputs : List (Tensor A.Elem)}
    {output : Tensor A.Elem} {outcome : Outcome A}
    (ran : ((compareWith World.host config id network inputs output).run.run s).run before =
      ((.ok outcome, s'), after)) :
    ∃ expected, outcome.reference = some expected ∧ outcome.output = output ∧
      output.shape = expected.shape ∧
      ∀ (i : Nat) (x y : A.Elem), output.data[i]? = some x → expected.data[i]? = some y →
        Comparison.Within (Comparison.parityTolerance A) x y := by
  obtain ⟨expected, _, _, -, ran⟩ := of_bind_ok ran
  obtain ⟨_, _, _, -, ran⟩ := of_bind_ok ran
  obtain ⟨error, _, _, measured, ran⟩ := of_bind_ok ran
  obtain ⟨_, _, _, -, ran⟩ := of_bind_ok ran
  obtain ⟨_, _, _, -, ran⟩ := of_bind_ok ran
  obtain ⟨⟨⟩, _, _, checked, ran⟩ := of_bind_ok ran
  cases ran
  have known : Comparison.maxError output expected = .ok error :=
    Halt.ofResult_eq_ok_iff.mp (congrArg (·.1.1) measured)
  have passed : Comparison.checkParity error (Comparison.parityTolerance A) = .ok () :=
    Halt.ofResult_eq_ok_iff.mp (congrArg (·.1.1) checked)
  have same := Comparison.shape_of_maxError_ok known
  refine ⟨expected, rfl, rfl, same, ((Comparison.maxError_passes_iff bounds same _).mp ?_).2⟩
  rw [known]
  exact passed

end Run

end Diffusion
