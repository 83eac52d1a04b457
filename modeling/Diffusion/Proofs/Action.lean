import Diffusion.Backend

/-!
Laws of results and calls: when a chain succeeds, what a call leaves of its state, and how a part
of the state is handed through a call as a value.

Main statement: `threaded_bind`, by which a call on a pair of states is read as a call on the first
one that takes the second as an argument and returns it.
-/

namespace Diffusion

namespace Halt

variable {ε α β : Type}

theorem bind_ok (a : α) (f : α → Except ε β) : (Except.ok a >>= f) = f a := rfl

theorem bind_eq_ok_iff {x : Except ε α} {f : α → Except ε β} {b : β} :
    (x >>= f) = .ok b ↔ ∃ a, x = .ok a ∧ f a = .ok b := by
  cases x with
  | error h =>
      constructor
      · intro impossible
        cases impossible
      · rintro ⟨_, impossible, _⟩
        cases impossible
  | ok a =>
      constructor
      · intro chain
        exact ⟨a, rfl, chain⟩
      · rintro ⟨_, same, chain⟩
        cases same
        exact chain

/-- A list of computations that all succeed succeeds. -/
theorem exists_mapM {f : α → Except ε β} {xs : List α} (each : ∀ x ∈ xs, ∃ y, f x = .ok y) :
    ∃ ys, xs.mapM f = .ok ys := by
  induction xs with
  | nil => exact ⟨[], rfl⟩
  | cons x rest ih =>
      obtain ⟨first, others⟩ := List.forall_mem_cons.mp each
      obtain ⟨y, here⟩ := first
      obtain ⟨ys, later⟩ := ih others
      exact ⟨y :: ys, by rw [List.mapM_cons, here, later]; rfl⟩

theorem mapM_eq_ok {f : α → Except ε β} {g : α → β} {xs : List α}
    (answers : ∀ x ∈ xs, f x = .ok (g x)) : xs.mapM f = .ok (xs.map g) := by
  induction xs with
  | nil => rfl
  | cons x rest ih =>
      rw [List.mapM_cons, answers x List.mem_cons_self,
        ih fun y member => answers y (List.mem_cons_of_mem _ member)]
      rfl

/-- A row of computations that succeeds has succeeded at its first one. -/
theorem of_mapM_cons {f : α → Except ε β} {x : α} {xs : List α} {ys : List β}
    (computed : (x :: xs).mapM f = .ok ys) :
    ∃ y rest, f x = .ok y ∧ xs.mapM f = .ok rest ∧ ys = y :: rest := by
  rw [List.mapM_cons] at computed
  obtain ⟨y, here, others⟩ := bind_eq_ok_iff.mp computed
  obtain ⟨rest, later, returned⟩ := bind_eq_ok_iff.mp others
  cases returned
  exact ⟨y, rest, here, later, rfl⟩

/-- It has succeeded at each, and with as many results. -/
theorem of_mapM {f : α → Except ε β} {xs : List α} {ys : List β} (computed : xs.mapM f = .ok ys) :
    ys.length = xs.length ∧
      ∀ (k : Nat) (x : α), xs[k]? = some x → ∃ y, f x = .ok y ∧ ys[k]? = some y := by
  induction xs generalizing ys with
  | nil =>
      cases computed
      exact ⟨rfl, nofun⟩
  | cons x rest ih =>
      obtain ⟨y, others, here, later, rfl⟩ := of_mapM_cons computed
      obtain ⟨length, each⟩ := ih later
      refine ⟨congrArg (· + 1) length, fun k x' found => ?_⟩
      cases k with
      | zero =>
          cases found
          exact ⟨y, here, rfl⟩
      | succ k => exact each k x' found

theorem toOption_eq_some_iff {x : Except Halt α} {a : α} : x.toOption = some a ↔ x = .ok a := by
  cases x <;> simp [Except.toOption]

theorem mapError_eq_ok_iff {f : Error → Error} {x : Except Halt α} {a : α} :
    mapError f x = .ok a ↔ x = .ok a := by
  unfold mapError
  split <;> simp

theorem ofResult_eq_ok_iff {r : Except Error α} {a : α} : ofResult r = .ok a ↔ r = .ok a := by
  cases r with
  | error e => exact ⟨nofun, nofun⟩
  | ok b =>
      constructor
      · rintro ⟨⟩
        rfl
      · rintro ⟨⟩
        rfl

theorem checked_eq_ok_iff {n m : Nat} : checked n = .ok m ↔ n < wordLimit ∧ m = n := by
  unfold checked
  split
  · rename_i fits
    simp [fits, eq_comm]
  · rename_i large
    simp [large]

theorem entry_eq_ok_iff {table : Array α} {i : Nat} {x : α} :
    entry table i = .ok x ↔ table[i]? = some x := by
  unfold entry
  cases table[i]? <;> simp

theorem entry_beyond {table : Array α} {i : Nat} (short : table.size ≤ i) :
    entry table i = .error .indexOutOfRange := by
  unfold entry
  rw [Array.getElem?_eq_none short]

end Halt

namespace Action

variable {σ ρ α β : Type}

theorem ext {x y : Action σ α} (same : ∀ s, x.runOn s = y.runOn s) : x = y := funext same

@[simp] theorem runOn_pure (a : α) (s : σ) : (pure a : Action σ α).runOn s = (.ok a, s) := rfl

theorem runOn_bind (x : Action σ α) (f : α → Action σ β) (s : σ) :
    (x >>= f).runOn s =
      match x.runOn s with
      | (.ok a, after) => (f a).runOn after
      | (.error h, after) => (.error h, after) := by
  change (ExceptT.bind x f : Action σ β) s = _
  simp only [ExceptT.bind, ExceptT.mk, bind, StateT.bind, runOn]
  rcases x s with ⟨_ | _, _⟩ <;> rfl

theorem runOn_bind_ok {x : Action σ α} {f : α → Action σ β} {s after : σ} {a : α}
    (first : x.runOn s = (.ok a, after)) : (x >>= f).runOn s = (f a).runOn after := by
  rw [runOn_bind, first]

theorem runOn_bind_error {x : Action σ α} {f : α → Action σ β} {s after : σ} {h : Halt}
    (first : x.runOn s = (.error h, after)) : (x >>= f).runOn s = (.error h, after) := by
  rw [runOn_bind, first]

theorem of_bind_ok {x : Action σ α} {f : α → Action σ β} {s after : σ} {b : β}
    (chain : (x >>= f).runOn s = (.ok b, after)) :
    ∃ a between, x.runOn s = (.ok a, between) ∧ (f a).runOn between = (.ok b, after) := by
  rw [runOn_bind] at chain
  rcases first : x.runOn s with ⟨_ | a, between⟩
  · simp [first] at chain
  · exact ⟨a, between, rfl, by simpa [first] using chain⟩

/-- Only what is done after a success matters. -/
theorem bind_congr_ok {x : Action σ α} {f g : α → Action σ β}
    (same : ∀ s a after, x.runOn s = (.ok a, after) → f a = g a) : x >>= f = x >>= g := by
  apply ext
  intro s
  rcases ran : x.runOn s with ⟨_ | a, after⟩
  · rw [runOn_bind_error ran, runOn_bind_error ran]
  · rw [runOn_bind_ok ran, runOn_bind_ok ran, same s a after ran]

@[simp] theorem ofExcept_ok (a : α) : (ofExcept (.ok a) : Action σ α) = pure a := rfl

/-! ### A part of the state as a value -/

/-- A call on a pair of states as a call on the first one, which takes the second and returns what
became of it. After a failure the second is not seen any more. -/
def threaded (x : Action (σ × ρ) α) (r : ρ) : Action σ (α × ρ) := fun s =>
  match x.runOn (s, r) with
  | (.ok a, s, r) => (.ok (a, r), s)
  | (.error h, s, _) => (.error h, s)

theorem runOn_threaded (x : Action (σ × ρ) α) (r : ρ) (s : σ) :
    (x.threaded r).runOn s =
      match x.runOn (s, r) with
      | (.ok a, s, r) => (.ok (a, r), s)
      | (.error h, s, _) => (.error h, s) := rfl

theorem of_threaded_ok {x : Action (σ × ρ) α} {r r' : ρ} {s s' : σ} {a : α}
    (ran : (x.threaded r).runOn s = (.ok (a, r'), s')) : x.runOn (s, r) = (.ok a, s', r') := by
  rw [runOn_threaded] at ran
  rcases answered : x.runOn (s, r) with ⟨_ | _, _, _⟩ <;> rw [answered] at ran <;> cases ran
  rfl

theorem of_threaded_error {x : Action (σ × ρ) α} {r : ρ} {s s' : σ} {h : Halt}
    (ran : (x.threaded r).runOn s = (.error h, s')) :
    ∃ r', x.runOn (s, r) = (.error h, s', r') := by
  rw [runOn_threaded] at ran
  rcases answered : x.runOn (s, r) with ⟨_ | _, _, r'⟩ <;> rw [answered] at ran <;> cases ran
  exact ⟨r', rfl⟩

@[simp] theorem threaded_pure (a : α) (r : ρ) :
    (pure a : Action (σ × ρ) α).threaded r = pure (a, r) := rfl

theorem threaded_bind (x : Action (σ × ρ) α) (f : α → Action (σ × ρ) β) (r : ρ) :
    (x >>= f).threaded r = x.threaded r >>= fun (a, r) => (f a).threaded r := by
  apply ext
  intro s
  rw [runOn_threaded, runOn_bind, runOn_bind, runOn_threaded]
  rcases x.runOn (s, r) with ⟨_ | _, _, _⟩ <;> rfl

@[simp] theorem threaded_ofExcept (answer : Except Halt α) (r : ρ) :
    (ofExcept answer : Action (σ × ρ) α).threaded r =
      ofExcept answer >>= fun a => pure (a, r) := by
  cases answer <;> rfl

@[simp] theorem threaded_onFirst (x : Action σ α) (r : ρ) :
    (onFirst x).threaded r = x >>= fun a => pure (a, r) := by
  apply ext
  intro s
  have ran : (onFirst x).runOn (s, r) = ((x.runOn s).1, (x.runOn s).2, r) := rfl
  rw [runOn_threaded, runOn_bind, ran]
  rcases x.runOn s with ⟨_ | _, _⟩ <;> rfl

/-- What a call on the second state does is known beforehand from that state. -/
theorem threaded_onSecond (x : Action ρ α) (r : ρ) :
    (onSecond x : Action (σ × ρ) α).threaded r =
      ofExcept ((x.runOn r).1.map fun a => (a, (x.runOn r).2)) := by
  apply ext
  intro s
  have ran : (onSecond x : Action (σ × ρ) α).runOn (s, r) = ((x.runOn r).1, s, (x.runOn r).2) :=
    rfl
  rw [runOn_threaded, ran]
  rcases x.runOn r with ⟨_ | _, _⟩ <;> rfl

@[simp] theorem threaded_onSecond_get (r : ρ) :
    (onSecond get : Action (σ × ρ) ρ).threaded r = pure (r, r) := rfl

@[simp] theorem threaded_onSecond_set (r new : ρ) :
    (onSecond (set new) : Action (σ × ρ) PUnit).threaded r = pure (⟨⟩, new) := rfl

@[simp] theorem threaded_onSecond_modify (f : ρ → ρ) (r : ρ) :
    (onSecond (modify f) : Action (σ × ρ) PUnit).threaded r = pure (⟨⟩, f r) := rfl

/-- The answers of two calls of which the one is the other with its first answer mapped. What else
they answer is not compared. -/
theorem answers_of_mapped {κ : Type} {x : Action σ ((β × κ) × ρ)} {y : Action σ ((α × κ) × ρ)}
    {f : α → β}
    (mapped : (x >>= fun a => pure a.1) = y >>= fun a => pure (f a.1.1, a.1.2)) (s : σ) :
    ((x.runOn s).1.map (·.1.1), (x.runOn s).2) =
      (((y.runOn s).1.map (·.1.1)).map f, (y.runOn s).2) := by
  have ran := congrArg (runOn · s) mapped
  simp only [runOn_bind] at ran
  rcases first : x.runOn s with ⟨_ | ⟨⟨_, _⟩, _⟩, _⟩ <;>
    rcases second : y.runOn s with ⟨_ | ⟨⟨_, _⟩, _⟩, _⟩ <;>
      rw [first, second] at ran <;> cases ran <;> rfl

end Action

end Diffusion
