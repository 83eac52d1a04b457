import Diffusion.Proofs.Backend.Contract
import Diffusion.Proofs.Backend.Eager

/-!
Calls that come back.

A call comes back when it has an answer or reports an error, as against one that stops because
something is looked up where there is nothing. A backend is orderly when all its operations come
back, on whatever they are given. Main statements: `orderly_eager` and `Orderly.contract`.
-/

namespace Diffusion

/-- There is an answer, or an error that is reported. -/
def Halt.Returned {α : Type} (answer : Except Halt α) : Prop :=
  ∀ h, answer = .error h → ∃ e, h = .error e

namespace Action

variable {σ ρ α β : Type} {P Q : α → Prop} {R : β → Prop}

/-- The call ends with something of the property or with an error that it reports. -/
def Settles (x : Action σ α) (P : α → Prop) : Prop := ∀ s,
  (∃ a after, x.runOn s = (.ok a, after) ∧ P a) ∨
    ∃ e after, x.runOn s = (.error (.error e), after)

theorem settles_pure {a : α} (holds : P a) : (pure a : Action σ α).Settles P :=
  fun s => .inl ⟨a, s, rfl, holds⟩

theorem settles_fail (e : Error) : (fail e : Action σ α).Settles P := fun s => .inr ⟨e, s, rfl⟩

theorem settles_ofExcept {r : Except Halt α} (returned : Halt.Returned r) :
    (ofExcept r : Action σ α).Settles fun a => r = .ok a := by
  cases r with
  | ok a => exact settles_pure rfl
  | error h =>
      obtain ⟨e, rfl⟩ := returned h rfl
      exact settles_fail e

theorem Settles.bind {x : Action σ α} {f : α → Action σ β} (first : x.Settles P)
    (next : ∀ a, P a → (f a).Settles R) : (x >>= f).Settles R := by
  intro s
  rcases first s with ⟨a, between, ran, holds⟩ | ⟨e, after, ran⟩
  · rw [runOn_bind_ok ran]
    exact next a holds between
  · exact .inr ⟨e, after, runOn_bind_error ran⟩

theorem Settles.imp {x : Action σ α} (settles : x.Settles P) (weaker : ∀ a, P a → Q a) :
    x.Settles Q :=
  fun s => (settles s).imp_left fun ⟨a, after, ran, holds⟩ => ⟨a, after, ran, weaker a holds⟩

/-- A call that settles as long as the second state is handed through comes back on both. -/
theorem Settles.returned {x : Action (σ × ρ) α} {r : ρ} {P : α × ρ → Prop}
    (settles : (x.threaded r).Settles P) (s : σ) : Halt.Returned (x.runOn (s, r)).1 := by
  intro h failed
  rcases settles s with ⟨⟨a, r'⟩, after, ran, -⟩ | ⟨e, after, ran⟩
  · rw [of_threaded_ok ran] at failed
    cases failed
  · obtain ⟨_, ran⟩ := of_threaded_error ran
    rw [ran] at failed
    cases failed
    exact ⟨e, rfl⟩

end Action

namespace Backend

variable {A : Arithmetic} {σ τ ν : Type}

/-- Every operation comes back, on any handles and in any state. -/
structure Orderly (B : Backend A σ τ) : Prop where
  scale : ∀ x factor, (B.scale x factor).Settles fun _ => True
  add : ∀ x y, (B.add x y).Settles fun _ => True
  sub : ∀ x y, (B.sub x y).Settles fun _ => True
  concat : ∀ x y, (B.concat x y).Settles fun _ => True
  split : ∀ x, (B.split x).Settles fun _ => True
  noise : ∀ x seed, (B.noise x seed).Settles fun _ => True
  predict : ∀ x timestep y, (B.predict x timestep y).Settles fun _ => True

theorem settles_reported {α : Type} (r : Except Error α) :
    (reported r : Action σ α).Settles fun _ => True := by
  cases r with
  | error e => exact Action.settles_fail e
  | ok a => exact Action.settles_pure trivial

/-- Computing with tensors is orderly if the network is. -/
theorem orderly_eager {network : Option (Network A ν)}
    (returns : ∀ n ∈ network, ∀ sample timestep conditioning,
      (n.predict sample timestep conditioning).Settles fun _ => True) :
    (eager network).Orderly where
  scale _ _ := Action.settles_pure trivial
  add _ _ := settles_reported _
  sub _ _ := settles_reported _
  concat _ _ := settles_reported _
  split _ := settles_reported _
  noise _ _ := Action.settles_pure trivial
  predict sample timestep conditioning := by
    change (callNetwork network sample timestep conditioning).Settles fun _ => True
    unfold callNetwork
    split
    · exact Action.settles_fail _
    · rename_i network
      split
      · exact Action.settles_fail _
      · refine (returns network rfl sample timestep conditioning).bind fun noise _ => ?_
        split
        · exact Action.settles_fail _
        · exact Action.settles_pure trivial

/-- Over an orderly backend everything comes back. -/
def Orderly.contract {B : Backend A σ τ} (orderly : B.Orderly) : Contract B where
  World := Unit
  Leads _ _ := True
  Fits _ _ := True
  Fed _ _ := True
  Meets _ x R := x.Settles (R ())
  fits_of_leads _ _ := trivial
  fed_of_leads _ _ := trivial
  meets_pure holds := Action.settles_pure holds
  meets_bind first next := first.bind fun a holds => next () a trivial holds
  meets_scale factor _ := (orderly.scale _ factor).imp fun _ _ => ⟨trivial, fun _ => trivial⟩
  meets_add _ _ := (orderly.add _ _).imp fun _ _ => ⟨trivial, fun _ => trivial⟩
  meets_sub _ _ := (orderly.sub _ _).imp fun _ _ => ⟨trivial, fun _ => trivial⟩
  meets_noise seed _ := orderly.noise _ seed

end Backend

end Diffusion
