import Diffusion.Proofs.Action
import Diffusion.Scheduler.Timeline

/-!
What a backend keeps to.

A contract says which handles fit together, and that the operations on handles that fit end as they
should and yield handles that fit. It also follows what a handle is fed by, through all operations.
What is written against the backend interface then keeps to the contract as a whole; here this is
shown for sums of scaled tensors and for guidance, elsewhere for the schedulers.
-/

namespace Diffusion

/-- What can be relied on in calls of a backend. Worlds say what has become of its state; what fits
or is fed in a world is so in every world that follows. -/
structure Contract {A : Arithmetic} {σ τ : Type} (B : Backend A σ τ) where
  World : Type
  Leads : World → World → Prop
  Fits : World → τ → Prop
  Fed : World → τ → Prop
  /-- A call from a world ends as it should, and where it returns, this holds of what it returns. -/
  Meets : {α : Type} → World → Action σ α → (World → α → Prop) → Prop
  fits_of_leads : ∀ {w w' x}, Leads w w' → Fits w x → Fits w' x
  fed_of_leads : ∀ {w w' x}, Leads w w' → Fed w x → Fed w' x
  meets_pure : ∀ {α : Type} {w} {a : α} {R : World → α → Prop}, R w a → Meets w (pure a) R
  meets_bind : ∀ {α β : Type} {w} {x : Action σ α} {f : α → Action σ β}
    {R : World → α → Prop} {S : World → β → Prop}, Meets w x R →
    (∀ w' a, Leads w w' → R w' a → Meets w' (f a) S) → Meets w (x >>= f) S
  meets_scale : ∀ {w x} (factor : A.Elem), Fits w x →
    Meets w (B.scale x factor) fun w' y => Fits w' y ∧ (Fed w x → Fed w' y)
  meets_add : ∀ {w x y}, Fits w x → Fits w y →
    Meets w (B.add x y) fun w' z => Fits w' z ∧ (Fed w x ∨ Fed w y → Fed w' z)
  meets_sub : ∀ {w x y}, Fits w x → Fits w y →
    Meets w (B.sub x y) fun w' z => Fits w' z ∧ (Fed w x ∨ Fed w y → Fed w' z)
  meets_noise : ∀ {w x} (seed : UInt64), Fits w x → Meets w (B.noise x seed) Fits

namespace Contract

variable {A : Arithmetic} {σ τ α β : Type} {B : Backend A σ τ} (C : Contract B) {w : C.World}
  {x y output sample : τ}

theorem meets_ofExcept_bind {r : Except Halt α} {f : α → Action σ β} {R : C.World → β → Prop}
    {a : α} (ok : r = .ok a) (next : C.Meets w (f a) R) :
    C.Meets w (Action.ofExcept r >>= f) R := by
  rw [ok, Action.ofExcept_ok, pure_bind]
  exact next

/-- Every demand is met by a computation that ends without a result. -/
def Forgiving : Prop :=
  ∀ {α : Type} (w : C.World) (h : Halt) (R : C.World → α → Prop),
    C.Meets w (Action.ofExcept (.error h)) R

/-- The contract can bear that a result is asked for: there is one, or failures are forgiven. -/
def Bears (r : Except Halt α) : Prop := C.Forgiving ∨ ∃ a, r = .ok a

variable {C} in
theorem Bears.bind {r : Except Halt α} {f : α → Action σ β} {R : C.World → β → Prop}
    (bears : C.Bears r) (next : ∀ a, r = .ok a → C.Meets w (f a) R) :
    C.Meets w (Action.ofExcept r >>= f) R := by
  cases asked : r with
  | ok a => exact C.meets_ofExcept_bind rfl (next a asked)
  | error h =>
      rcases bears with forgiving | ⟨a, found⟩
      · exact forgiving w h R
      · cases asked.symm.trans found

theorem meets_map {x : Action σ α} {f : α → β} {R : C.World → α → Prop} {S : C.World → β → Prop}
    (first : C.Meets w x R) (next : ∀ w' a, C.Leads w w' → R w' a → S w' (f a)) :
    C.Meets w (x >>= fun a => pure (f a)) S :=
  C.meets_bind first fun w' a leads result => C.meets_pure (next w' a leads result)

theorem meets_imp {x : Action σ α} {R S : C.World → α → Prop} (meets : C.Meets w x R)
    (next : ∀ w' a, C.Leads w w' → R w' a → S w' a) : C.Meets w x S := by
  rw [← bind_pure x]
  exact C.meets_map meets next

/-- A result that fits and is fed by whatever feeds one of its sources. -/
structure Drawn (w : C.World) (sources : List τ) (w' : C.World) (result : τ) : Prop where
  fits : C.Fits w' result
  fed : ∀ source ∈ sources, C.Fed w source → C.Fed w' result

variable {C} {w₁ w₂ : C.World} {sources more : List τ}

theorem Drawn.mono (drawn : C.Drawn w sources w₁ y) (sub : more ⊆ sources) :
    C.Drawn w more w₁ y :=
  ⟨drawn.fits, fun source member => drawn.fed source (sub member)⟩

/-- What is drawn from something drawn earlier is drawn from the sources of that. -/
theorem Drawn.trans (leads : C.Leads w w₁) (first : C.Drawn w sources w₁ x)
    (next : C.Drawn w₁ (x :: more) w₂ y) : C.Drawn w (sources ++ more) w₂ y := by
  refine ⟨next.fits, fun source member fed => ?_⟩
  rcases List.mem_append.mp member with inside | inside
  · exact next.fed x List.mem_cons_self (first.fed source inside fed)
  · exact next.fed source (List.mem_cons_of_mem _ inside) (C.fed_of_leads leads fed)

/-- What is drawn stays drawn. -/
theorem Drawn.later (leads : C.Leads w₁ w₂) (drawn : C.Drawn w sources w₁ y) :
    C.Drawn w sources w₂ y :=
  ⟨C.fits_of_leads leads drawn.fits,
    fun source member fed => C.fed_of_leads leads (drawn.fed source member fed)⟩

theorem Drawn.of_leads (leads : C.Leads w w₁) (drawn : C.Drawn w₁ sources w₂ y) :
    C.Drawn w sources w₂ y :=
  ⟨drawn.fits, fun source member fed => drawn.fed source member (C.fed_of_leads leads fed)⟩

variable (C)

theorem drawn_pure (fits : C.Fits w x) : C.Meets w (pure x) (C.Drawn w [x]) :=
  C.meets_pure ⟨fits, List.forall_mem_singleton.mpr id⟩

theorem drawn_scale (factor : A.Elem) (fits : C.Fits w x) :
    C.Meets w (B.scale x factor) (C.Drawn w [x]) :=
  C.meets_imp (C.meets_scale factor fits) fun _ _ _ result =>
    ⟨result.1, List.forall_mem_singleton.mpr result.2⟩

theorem drawn_add (left : C.Fits w x) (right : C.Fits w y) :
    C.Meets w (B.add x y) (C.Drawn w [x, y]) :=
  C.meets_imp (C.meets_add left right) fun _ _ _ result =>
    ⟨result.1, List.forall_mem_cons.mpr
      ⟨result.2 ∘ .inl, List.forall_mem_singleton.mpr (result.2 ∘ .inr)⟩⟩

theorem drawn_sub (left : C.Fits w x) (right : C.Fits w y) :
    C.Meets w (B.sub x y) (C.Drawn w [x, y]) :=
  C.meets_imp (C.meets_sub left right) fun _ _ _ result =>
    ⟨result.1, List.forall_mem_cons.mpr
      ⟨result.2 ∘ .inl, List.forall_mem_singleton.mpr (result.2 ∘ .inr)⟩⟩

theorem drawn_addTerms {terms : List (A.Elem × τ)} (sum : C.Fits w x)
    (fit : ∀ term ∈ terms, C.Fits w term.2) :
    C.Meets w (B.addTerms x terms) (C.Drawn w (x :: terms.map Prod.snd)) := by
  induction terms generalizing x w with
  | nil => exact C.drawn_pure sum
  | cons term rest ih =>
      obtain ⟨here, later⟩ := List.forall_mem_cons.mp fit
      refine C.meets_bind (C.drawn_scale term.1 here) fun w₁ scaled leads₁ first => ?_
      refine C.meets_bind (C.drawn_add (C.fits_of_leads leads₁ sum) first.fits)
        fun w₂ total leads₂ second => ?_
      refine C.meets_imp (ih second.fits fun other member =>
        C.fits_of_leads leads₂ (C.fits_of_leads leads₁ (later other member))) ?_
      intro w₃ result _ third
      have both : C.Drawn w₁ (scaled :: x :: rest.map Prod.snd) w₃ result :=
        (second.trans leads₂ third).mono (by simp)
      exact (first.trans leads₁ both).mono (by simp)

/-- A sum is fed by what feeds any of its terms. -/
theorem drawn_weightedSum {coefficient : A.Elem} {terms : List (A.Elem × τ)} (first : C.Fits w x)
    (fit : ∀ term ∈ terms, C.Fits w term.2) :
    C.Meets w (B.weightedSum ((coefficient, x) :: terms))
      (C.Drawn w (x :: terms.map Prod.snd)) := by
  refine C.meets_bind (C.drawn_scale coefficient first) fun w₁ scaled leads begun => ?_
  refine C.meets_imp (C.drawn_addTerms begun.fits fun term member =>
    C.fits_of_leads leads (fit term member)) ?_
  intro w₂ result _ added
  exact begun.trans leads added

theorem drawn_weightedPair (c d : A.Elem) (first : C.Fits w x) (second : C.Fits w y) :
    C.Meets w (B.weightedSum [(c, x), (d, y)]) (C.Drawn w [x, y]) :=
  C.drawn_weightedSum first (List.forall_mem_singleton.mpr second)

theorem drawn_guide (guidance : A.Elem) (unconditional : C.Fits w x) (conditional : C.Fits w y) :
    C.Meets w (B.guide x y guidance) (C.Drawn w [x, y]) := by
  refine C.meets_bind (C.drawn_sub conditional unconditional) fun w₁ delta leads₁ first => ?_
  refine C.meets_bind (C.drawn_scale guidance first.fits) fun w₂ scaled leads₂ second => ?_
  refine C.meets_imp (C.drawn_add
    (C.fits_of_leads leads₂ (C.fits_of_leads leads₁ unconditional)) second.fits) ?_
  intro w₃ guided _ third
  have last : C.Drawn w₂ [scaled] w₃ guided := third.mono (by simp)
  exact (first.trans leads₁ (second.trans leads₂ last)).mono (by simp)

end Contract

end Diffusion
