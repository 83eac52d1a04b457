import Diffusion.Arithmetic.Machine
import Mathlib

/-!
The order of elements.

The elements that are numbers are ranked, the two zeros alike, and one is below another when its
rank is. So a bound on the larger of two of them is a bound on both. Main statements: `lt_iff`,
`machine_maxBounds`.
-/

namespace Diffusion

namespace Arithmetic

/-- A bound on the larger of two numbers is one on both, and what is unbounded has no bound. -/
structure MaxBounds (A : Arithmetic) : Prop where
  isNaN_zero : A.isNaN 0 = false
  isNaN_unbounded : A.isNaN A.unbounded = false
  isNaN_elemMax {x y : A.Elem} :
    A.isNaN x = false → A.isNaN y = false → A.isNaN (A.elemMax x y) = false
  below_unbounded (tolerance : A.Elem) : A.below A.unbounded tolerance = false
  below_elemMax_iff {x y : A.Elem} (tolerance : A.Elem) : A.isNaN x = false → A.isNaN y = false →
    (A.below (A.elemMax x y) tolerance ↔ A.below x tolerance ∧ A.below y tolerance)

/-- The largest of a row of numbers is below a bound when all of them are. -/
theorem MaxBounds.below_foldl_iff {A : Arithmetic} (bounds : A.MaxBounds) (tolerance : A.Elem)
    {elements : List A.Elem} (numbers : ∀ x ∈ elements, A.isNaN x = false) {start : A.Elem}
    (number : A.isNaN start = false) :
    A.below (elements.foldl A.elemMax start) tolerance ↔
      A.below start tolerance ∧ ∀ x ∈ elements, A.below x tolerance := by
  induction elements generalizing start with
  | nil => simp
  | cons x rest ih =>
    rw [List.forall_mem_cons] at numbers
    rw [List.foldl_cons, ih numbers.2 (bounds.isNaN_elemMax number numbers.1),
      bounds.below_elemMax_iff tolerance number numbers.1, List.forall_mem_cons, and_assoc]

end Arithmetic

open Float.Model

/-- Where a number stands among all: first the infinities and the signs, then the exponent, then
the mantissa. -/
def rank : UnpackedFloat → Int ×ₗ Int ×ₗ Int
  | .infinity .negative => toLex (-2, toLex (0, 0))
  | .finite .negative mantissa exponent _ => toLex (-1, toLex (-exponent, -mantissa))
  | .notANumber => toLex (0, toLex (0, 0))
  | .zero _ => toLex (0, toLex (0, 0))
  | .finite .positive mantissa exponent _ => toLex (1, toLex (exponent, mantissa))
  | .infinity .positive => toLex (2, toLex (0, 0))

theorem lt_iff_rank (a b : UnpackedFloat) :
    a.lt b = true ↔ a.isNaN = false ∧ b.isNaN = false ∧ rank a < rank b := by
  have signs : compare UnpackedFloat.Sign.negative UnpackedFloat.Sign.positive = .lt := by decide
  rcases a with s | _ | s | ⟨s, m, e, _⟩ <;> rcases b with s' | _ | s' | ⟨s', m', e', _⟩ <;>
    try cases s <;> try cases s'
  all_goals
    simp [UnpackedFloat.lt, UnpackedFloat.compare, UnpackedFloat.isNaN, rank, signs,
      Prod.Lex.toLex_lt_toLex, Ordering.then_eq_lt, Ordering.then_eq_gt, compare_lt_iff_lt,
      compare_gt_iff_gt]

theorem rank_le_infinity (a : UnpackedFloat) : rank a ≤ rank (.infinity .positive) := by
  rcases a with s | _ | s | ⟨s, _, _, _⟩ <;> try cases s
  all_goals simp [rank, Prod.Lex.toLex_le_toLex]

/-- Where an element stands among all that are numbers. -/
def elemRank (x : Float32) : Int ×ₗ Int ×ₗ Int := rank x.toModel.unpack

theorem lt_iff_elemRank {x y : Float32} :
    x < y ↔ x.isNaN = false ∧ y.isNaN = false ∧ elemRank x < elemRank y := by
  have unpacked : x < y ↔ x.toModel.unpack.lt y.toModel.unpack = true := decide_eq_true_iff
  rw [unpacked, lt_iff_rank]
  rfl

section

variable {x y : Float32} (number : x.isNaN = false) (number' : y.isNaN = false)

include number number'

theorem float32Max_eq : float32Max x y = if elemRank x < elemRank y then y else x := by
  simp only [float32Max, number, number', lt_iff_elemRank, Bool.false_eq_true, if_false, true_and]

theorem isNaN_float32Max : (float32Max x y).isNaN = false := by
  rw [float32Max_eq number number']
  split <;> assumption

theorem elemRank_float32Max : elemRank (float32Max x y) = max (elemRank x) (elemRank y) := by
  rw [float32Max_eq number number', max_def_lt, apply_ite elemRank]

theorem float32Max_lt_iff (tolerance : Float32) :
    float32Max x y < tolerance ↔ x < tolerance ∧ y < tolerance := by
  have ranked {z : Float32} (number : z.isNaN = false) :
      z < tolerance ↔ tolerance.isNaN = false ∧ elemRank z < elemRank tolerance := by
    simp only [lt_iff_elemRank, number, true_and]
  rw [ranked number, ranked number', ranked (isNaN_float32Max number number'),
    elemRank_float32Max number number', max_lt_iff, and_and_left]

end

theorem machine_maxBounds : machine.MaxBounds where
  isNaN_zero := by decide +kernel
  isNaN_unbounded := by decide +kernel
  isNaN_elemMax := isNaN_float32Max
  below_unbounded tolerance := by
    have infinite : elemRank machine.unbounded = rank (.infinity .positive) := by decide +kernel
    refine decide_eq_false fun below => ?_
    have above := (lt_iff_elemRank.mp below).2.2
    rw [infinite] at above
    exact not_lt.mpr (rank_le_infinity _) above
  below_elemMax_iff tolerance number number' := by
    simpa using float32Max_lt_iff number number' tolerance

end Diffusion
