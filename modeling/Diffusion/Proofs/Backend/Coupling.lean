import Diffusion.Proofs.Action
import Mathlib.Data.List.Forall2

/-!
Two backends side by side.

A coupling says which handles of two backends stand for each other and which calls correspond. What
is written against the backend interface then corresponds on both as a whole; here this is shown for
sums of scaled tensors and for guidance, elsewhere for the schedulers and for the sampling loop.
-/

namespace Diffusion

/-- Corresponding handles and calls of two backends. Worlds say what the backends have in common at
one moment; handles that correspond keep doing so in every world that follows. -/
structure Coupling {A : Arithmetic} {σ₁ τ₁ σ₂ τ₂ : Type} (B₁ : Backend A σ₁ τ₁)
    (B₂ : Backend A σ₂ τ₂) where
  World : Type
  Leads : World → World → Prop
  Related : World → τ₁ → τ₂ → Prop
  /-- Two calls from a world correspond, and what they return is related where they arrive. -/
  Couples : {α β : Type} → World → Action σ₁ α → Action σ₂ β → (World → α → β → Prop) → Prop
  related_of_leads : ∀ {w w' x y}, Leads w w' → Related w x y → Related w' x y
  couples_pure : ∀ {α β : Type} {w} {a : α} {b : β} {R : World → α → β → Prop},
    R w a b → Couples w (pure a) (pure b) R
  couples_halt : ∀ {α β : Type} {w} (h : Halt) {R : World → α → β → Prop},
    Couples w (Action.ofExcept (.error h)) (Action.ofExcept (.error h)) R
  couples_bind : ∀ {α β γ δ : Type} {w} {x : Action σ₁ α} {y : Action σ₂ β}
    {f : α → Action σ₁ γ} {g : β → Action σ₂ δ} {R : World → α → β → Prop}
    {S : World → γ → δ → Prop}, Couples w x y R →
    (∀ w' a b, Leads w w' → R w' a b → Couples w' (f a) (g b) S) →
    Couples w (x >>= f) (y >>= g) S
  couples_scale : ∀ {w x y} (factor : A.Elem), Related w x y →
    Couples w (B₁.scale x factor) (B₂.scale y factor) Related
  couples_add : ∀ {w x y x' y'}, Related w x y → Related w x' y' →
    Couples w (B₁.add x x') (B₂.add y y') Related
  couples_sub : ∀ {w x y x' y'}, Related w x y → Related w x' y' →
    Couples w (B₁.sub x x') (B₂.sub y y') Related
  couples_concat : ∀ {w x y x' y'}, Related w x y → Related w x' y' →
    Couples w (B₁.concat x x') (B₂.concat y y') Related
  couples_split : ∀ {w x y}, Related w x y →
    Couples w (B₁.split x) (B₂.split y) fun w a b => Related w a.1 b.1 ∧ Related w a.2 b.2
  couples_noise : ∀ {w x y} (seed : UInt64), Related w x y →
    Couples w (B₁.noise x seed) (B₂.noise y seed) Related
  couples_predict : ∀ {w x y x' y'} (timestep : A.Elem), Related w x y → Related w x' y' →
    Couples w (B₁.predict x timestep x') (B₂.predict y timestep y') Related

namespace Coupling

variable {A : Arithmetic} {σ₁ τ₁ σ₂ τ₂ α β γ δ : Type} {B₁ : Backend A σ₁ τ₁} {B₂ : Backend A σ₂ τ₂}
  (C : Coupling B₁ B₂) {w w' : C.World}

/-- What both sides compute apart from their backends is the same, so they go on or halt
together. -/
theorem couples_ofExcept_bind (r : Except Halt γ) {f : γ → Action σ₁ α} {g : γ → Action σ₂ β}
    {R : C.World → α → β → Prop} (next : ∀ c, r = .ok c → C.Couples w (f c) (g c) R) :
    C.Couples w (Action.ofExcept r >>= f) (Action.ofExcept r >>= g) R := by
  cases r with
  | error h => exact C.couples_halt h
  | ok c => exact next c rfl

theorem couples_fail (e : Error) {R : C.World → α → β → Prop} :
    C.Couples w (Action.fail e) (Action.fail e) R := C.couples_halt (.error e)

theorem couples_map {x : Action σ₁ α} {y : Action σ₂ β} {f : α → γ} {g : β → δ}
    {R : C.World → α → β → Prop} {S : C.World → γ → δ → Prop} (first : C.Couples w x y R)
    (next : ∀ w' a b, C.Leads w w' → R w' a b → S w' (f a) (g b)) :
    C.Couples w (x >>= fun a => pure (f a)) (y >>= fun b => pure (g b)) S :=
  C.couples_bind first fun w' a b leads related => C.couples_pure (next w' a b leads related)

/-- Terms of two sums: equal coefficients and corresponding tensors. -/
def Terms (w : C.World) : List (A.Elem × τ₁) → List (A.Elem × τ₂) → Prop :=
  List.Forall₂ fun a b => a.1 = b.1 ∧ C.Related w a.2 b.2

variable {C}

theorem Terms.nil : C.Terms w [] [] := List.Forall₂.nil

theorem Terms.cons {c : A.Elem} {x : τ₁} {y : τ₂} {terms₁ : List (A.Elem × τ₁)}
    {terms₂ : List (A.Elem × τ₂)} (related : C.Related w x y) (rest : C.Terms w terms₁ terms₂) :
    C.Terms w ((c, x) :: terms₁) ((c, y) :: terms₂) :=
  List.Forall₂.cons ⟨rfl, related⟩ rest

theorem Terms.zip {weights : List A.Elem} {xs : List τ₁} {ys : List τ₂}
    (related : List.Forall₂ (C.Related w) xs ys) :
    C.Terms w (weights.zip xs) (weights.zip ys) := by
  induction weights generalizing xs ys with
  | nil => exact .nil
  | cons weight weights ih =>
      cases related with
      | nil => exact .nil
      | cons first rest => exact .cons first (ih rest)

theorem Terms.of_leads {terms₁ : List (A.Elem × τ₁)} {terms₂ : List (A.Elem × τ₂)}
    (leads : C.Leads w w') (terms : C.Terms w terms₁ terms₂) : C.Terms w' terms₁ terms₂ :=
  List.Forall₂.imp (fun _ _ same => ⟨same.1, C.related_of_leads leads same.2⟩) terms

theorem forall₂_of_leads {xs : List τ₁} {ys : List τ₂} (leads : C.Leads w w')
    (related : List.Forall₂ (C.Related w) xs ys) : List.Forall₂ (C.Related w') xs ys :=
  List.Forall₂.imp (fun _ _ => C.related_of_leads leads) related

variable (C)

theorem couples_addTerms {terms₁ : List (A.Elem × τ₁)} {terms₂ : List (A.Elem × τ₂)} {x : τ₁}
    {y : τ₂} (sum : C.Related w x y) (terms : C.Terms w terms₁ terms₂) :
    C.Couples w (B₁.addTerms x terms₁) (B₂.addTerms y terms₂) C.Related := by
  induction terms₁ generalizing terms₂ x y w with
  | nil =>
      cases terms
      exact C.couples_pure sum
  | cons first₁ rest₁ ih =>
      cases terms with
      | @cons _ first₂ _ rest₂ first rest =>
          obtain ⟨c, a⟩ := first₁
          obtain ⟨_, b⟩ := first₂
          obtain ⟨same, related⟩ := first
          cases same
          refine C.couples_bind (C.couples_scale c related) fun w₁ _ _ leads₁ scaled => ?_
          refine C.couples_bind (C.couples_add (C.related_of_leads leads₁ sum) scaled)
            fun w₂ _ _ leads₂ sum => ?_
          exact ih sum (.of_leads leads₂ (.of_leads leads₁ rest))

theorem couples_weightedSum {terms₁ : List (A.Elem × τ₁)} {terms₂ : List (A.Elem × τ₂)}
    (terms : C.Terms w terms₁ terms₂) :
    C.Couples w (B₁.weightedSum terms₁) (B₂.weightedSum terms₂) C.Related := by
  cases terms with
  | nil => exact C.couples_fail .noTerms
  | @cons first₁ first₂ rest₁ rest₂ first rest =>
      obtain ⟨c, a⟩ := first₁
      obtain ⟨_, b⟩ := first₂
      obtain ⟨same, related⟩ := first
      cases same
      refine C.couples_bind (C.couples_scale c related) fun w₁ _ _ leads scaled => ?_
      exact C.couples_addTerms scaled (.of_leads leads rest)

/-- The sum of two terms, which is the shape of most updates. -/
theorem couples_weightedPair {x x' : τ₁} {y y' : τ₂} (c d : A.Elem) (first : C.Related w x y)
    (second : C.Related w x' y') :
    C.Couples w (B₁.weightedSum [(c, x), (d, x')]) (B₂.weightedSum [(c, y), (d, y')]) C.Related :=
  C.couples_weightedSum (.cons first (.cons second .nil))

theorem couples_guide {u₁ c₁ : τ₁} {u₂ c₂ : τ₂} (guidance : A.Elem)
    (unconditional : C.Related w u₁ u₂) (conditional : C.Related w c₁ c₂) :
    C.Couples w (B₁.guide u₁ c₁ guidance) (B₂.guide u₂ c₂ guidance) C.Related := by
  refine C.couples_bind (C.couples_sub conditional unconditional) fun w₁ _ _ leads₁ delta => ?_
  refine C.couples_bind (C.couples_scale guidance delta) fun w₂ _ _ leads₂ scaled => ?_
  exact C.couples_add
    (C.related_of_leads leads₂ (C.related_of_leads leads₁ unconditional)) scaled

end Coupling

end Diffusion
