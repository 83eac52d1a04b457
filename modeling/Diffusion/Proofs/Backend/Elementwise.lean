import Diffusion.Proofs.Backend.Contract
import Diffusion.Proofs.Backend.Eager

/-!
Calls on tensors that cannot fail.

A call yields a property when it has an answer with that property, whatever the state of the
network, and leaves this state as it is. Main statement: `elementwise`, the contract by which all
calls of the computing backend but those that change the batch yield tensors of one shape from
tensors of that shape.
-/

namespace Diffusion

namespace Action

variable {σ α β : Type} {P : α → Prop} {Q : β → Prop}

/-- The call answers with something of the property and has no effect. -/
def Yields (x : Action σ α) (P : α → Prop) : Prop := ∃ a, x = pure a ∧ P a

theorem yields_pure {a : α} (holds : P a) : (pure a : Action σ α).Yields P := ⟨a, rfl, holds⟩

theorem Yields.bind {x : Action σ α} {f : α → Action σ β} (first : x.Yields P)
    (next : ∀ a, P a → (f a).Yields Q) : (x >>= f).Yields Q := by
  obtain ⟨a, rfl, holds⟩ := first
  rw [pure_bind]
  exact next a holds

theorem Yields.imp {x : Action σ α} {Q : α → Prop} (yields : x.Yields P)
    (weaker : ∀ a, P a → Q a) : x.Yields Q := by
  obtain ⟨a, rfl, holds⟩ := yields
  exact ⟨a, rfl, weaker a holds⟩

end Action

namespace Backend

variable {A : Arithmetic} {ν : Type} {network : Option (Network A ν)} {s : Shape}
  {x y output sample : Tensor A.Elem}

theorem yields_scale (factor : A.Elem) (shape : x.shape = s) :
    ((eager network).scale x factor).Yields (·.shape = s) :=
  Action.yields_pure shape

theorem yields_noise (seed : UInt64) (shape : x.shape = s) :
    ((eager network).noise x seed).Yields (·.shape = s) :=
  Action.yields_pure shape

theorem yields_combine {operation : String} {f : A.Elem → A.Elem → A.Elem} (first : x.shape = s)
    (second : y.shape = s) :
    (reported (x.combine operation f y) : Action ν (Tensor A.Elem)).Yields (·.shape = s) := by
  rw [Tensor.combine_same _ _ (first.trans second.symm)]
  exact Action.yields_pure first

theorem yields_add (first : x.shape = s) (second : y.shape = s) :
    ((eager network).add x y).Yields (·.shape = s) :=
  yields_combine first second

theorem yields_sub (first : x.shape = s) (second : y.shape = s) :
    ((eager network).sub x y).Yields (·.shape = s) :=
  yields_combine first second

/-- Operations on tensors of a shape yield tensors of that shape. -/
def elementwise (network : Option (Network A ν)) (s : Shape) : Contract (eager network) where
  World := Unit
  Leads _ _ := True
  Fits _ x := x.shape = s
  Fed _ _ := True
  Meets _ x R := x.Yields (R ())
  fits_of_leads _ same := same
  fed_of_leads _ _ := trivial
  meets_pure holds := Action.yields_pure holds
  meets_bind first next := first.bind fun a holds => next () a trivial holds
  meets_scale factor shape := (yields_scale factor shape).imp fun _ same => ⟨same, fun _ => trivial⟩
  meets_add first second := (yields_add first second).imp fun _ same => ⟨same, fun _ => trivial⟩
  meets_sub first second := (yields_sub first second).imp fun _ same => ⟨same, fun _ => trivial⟩
  meets_noise seed shape := yields_noise seed shape

theorem yields_guide (guidance : A.Elem) (unconditional : x.shape = s)
    (conditional : y.shape = s) : ((eager network).guide x y guidance).Yields (·.shape = s) :=
  ((elementwise network s).drawn_guide (w := ()) guidance unconditional conditional).imp
    fun _ drawn => drawn.fits

end Backend

end Diffusion
