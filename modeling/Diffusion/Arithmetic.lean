/-!
The numbers a sampler computes with.

Schedules and tensors are written against an `Arithmetic`, so the same definitions run on machine
floats and can be read over exact numbers, where no operation rounds.
-/

namespace Diffusion

/-- How numbers are written and read back. JSON has no numeral for what is not finite, so writing
it may fail there, and reading it fails on a numeral that is out of range. -/
structure NumberText (Wide Elem : Type) where
  /-- Inside a message: positional, whole numbers without a point. -/
  plain : Elem → String
  /-- As a field of a log line. -/
  logged : Elem → String
  exponential : Elem → String
  wideExponential : Wide → String
  json? : Elem → Option String
  wideJson? : Wide → Option String
  ofJson? : String → Option Elem
  wideOfJson? : String → Option Wide
  /-- As typed by a person. -/
  typed? : String → Option Elem

/-- Two kinds of number and what a sampler needs of them. Coefficients are computed in `Wide`
numbers and narrowed where they enter a tensor, whose elements are `Elem` numbers. -/
structure Arithmetic where
  Wide : Type
  Elem : Type
  [wideAdd : Add Wide]
  [wideSub : Sub Wide]
  [wideMul : Mul Wide]
  [wideDiv : Div Wide]
  [wideNeg : Neg Wide]
  [wideScientific : OfScientific Wide]
  [elemAdd : Add Elem]
  [elemSub : Sub Elem]
  [elemMul : Mul Elem]
  [elemDiv : Div Elem]
  [elemNeg : Neg Elem]
  wideOfNat : Nat → Wide
  sqrt : Wide → Wide
  /-- The larger number, leaving out one that is no number. -/
  wideMax : Wide → Wide → Wide
  isPositive : Wide → Bool
  isOne : Wide → Bool
  narrow : Wide → Elem
  widen : Elem → Wide
  elemOfNat : Nat → Elem
  elemAbs : Elem → Elem
  /-- The larger element, leaving out one that is no number. -/
  elemMax : Elem → Elem → Elem
  below : Elem → Elem → Bool
  /-- Equality as the numbers see it, which need not be equality of representations. -/
  same : Elem → Elem → Bool
  isNaN : Elem → Bool
  /-- The element above every other. -/
  unbounded : Elem
  /-- The integer part toward zero, clamped to 64 signed bits; 0 for what is no number. -/
  truncate : Elem → Int
  /-- Standard normal elements, determined by the seed. -/
  normals : UInt64 → (count : Nat) → Vector Elem count
  /-- Uniform elements of `[0, 1)` for consecutive requests to one generator. -/
  uniforms : UInt64 → (count : Nat) → Vector Elem count
  text : NumberText Wide Elem

namespace Arithmetic

attribute [instance] wideAdd wideSub wideMul wideDiv wideNeg wideScientific
attribute [instance] elemAdd elemSub elemMul elemDiv elemNeg

variable (A : Arithmetic)

instance (n : Nat) : OfNat A.Wide n := ⟨A.wideOfNat n⟩

instance (n : Nat) : OfNat A.Elem n := ⟨A.elemOfNat n⟩

/-- Widening loses nothing, so an element kept in a wide field comes back unchanged. -/
def WidensExactly : Prop := ∀ x : A.Elem, A.narrow (A.widen x) = x

/-- The test for one accepts only the number one. -/
def OneIsUnique : Prop := ∀ x : A.Wide, A.isOne x = true → x = 1

/-- Multiplying by a narrowed one changes no element. -/
def OneIsNeutral : Prop := ∀ x : A.Elem, x * A.narrow 1 = x

end Arithmetic

end Diffusion
