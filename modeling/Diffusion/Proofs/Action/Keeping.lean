import Diffusion.Proofs.Action

/-!
What is left of a state, whether or not the call that ran on it succeeded.

A call keeps a property if no state with the property loses it, however the call ends. Main
statement: `Keeps.bind`, by which a chain keeps what its parts keep.
-/

namespace Diffusion.Action

variable {σ ρ α β : Type}

/-! ### Chains on a pair of states -/

theorem runOn_ofExcept_bind (answer : Except Halt α) (f : α → Action σ β) (s : σ) :
    (ofExcept answer >>= f).runOn s =
      match answer with
      | .ok a => (f a).runOn s
      | .error h => (.error h, s) := by
  cases answer <;> rfl

theorem runOn_onFirst_bind (x : Action σ α) (f : α → Action (σ × ρ) β) (s : σ) (r : ρ) :
    (onFirst x >>= f).runOn (s, r) =
      match x.runOn s with
      | (.ok a, s) => (f a).runOn (s, r)
      | (.error h, s) => (.error h, s, r) := by
  have ran : (onFirst x).runOn (s, r) = ((x.runOn s).1, (x.runOn s).2, r) := rfl
  rw [runOn_bind, ran]
  rcases x.runOn s with ⟨_ | _, _⟩ <;> rfl

theorem runOn_get_bind (f : ρ → Action (σ × ρ) β) (s : σ) (r : ρ) :
    (onSecond get >>= f).runOn (s, r) = (f r).runOn (s, r) := rfl

theorem runOn_set_bind (new : ρ) (f : PUnit → Action (σ × ρ) β) (s : σ) (r : ρ) :
    (onSecond (set new) >>= f).runOn (s, r) = (f ⟨⟩).runOn (s, new) := rfl

/-! ### Properties that are kept -/

variable {P : σ → Prop}

/-- A state with the property still has it after the call, also when the call fails. -/
def Keeps (P : σ → Prop) (x : Action σ α) : Prop := ∀ s, P s → P (x.runOn s).2

theorem keeps_pure (a : α) : Keeps P (pure a : Action σ α) := fun _ holds => holds

theorem keeps_ofExcept (answer : Except Halt α) : Keeps P (ofExcept answer) :=
  fun _ holds => holds

theorem Keeps.bind {x : Action σ α} {f : α → Action σ β} (first : Keeps P x)
    (next : ∀ a, Keeps P (f a)) : Keeps P (x >>= f) := by
  intro s holds
  have between := first s holds
  rw [runOn_bind]
  rcases ran : x.runOn s with ⟨_ | a, after⟩ <;> rw [ran] at between
  · exact between
  · exact next a after between

/-- A call on the first state cannot touch the second one. -/
theorem keeps_onFirst {P : ρ → Prop} (x : Action σ α) :
    Keeps (fun state => P state.2) (onFirst x : Action (σ × ρ) α) := fun _ holds => holds

theorem keeps_onSecond (x : Action ρ α) :
    Keeps (fun state => P state.1) (onSecond x : Action (σ × ρ) α) := fun _ holds => holds

theorem Keeps.onFirst {x : Action σ α} (keeps : Keeps P x) :
    Keeps (fun state => P state.1) (Action.onFirst x : Action (σ × ρ) α) :=
  fun (s, _) holds => keeps s holds

end Diffusion.Action
