import Diffusion.Proofs.Action

/-!
Calls that take notes.

A call on a state with a list beside it may put notes at the end of that list. `Annotates` says that
apart from its notes such a call does what another one does. The relation passes through chains, so
a program and its annotated form are compared step by step.
-/

namespace Diffusion.Action

variable {σ ν α β : Type}

/-- Puts a note after those taken so far. -/
def note (n : ν) : Action (σ × List ν) Unit := onSecond (modify (· ++ [n]))

/-- The first call does what the second one does and takes notes, whatever was noted before. -/
def Annotates (y : Action (σ × List ν) α) (x : Action σ α) : Prop :=
  ∀ s, ∃ new, ∀ seen, y.runOn (s, seen) = ((x.runOn s).1, (x.runOn s).2, seen ++ new)

theorem runOn_note_bind (n : ν) (y : Action (σ × List ν) α) (s : σ) (seen : List ν) :
    (note n >>= fun _ => y).runOn (s, seen) = y.runOn (s, seen ++ [n]) := rfl

theorem runOn_onFirst (x : Action σ α) (s : σ) (seen : List ν) :
    (onFirst x).runOn (s, seen) = ((x.runOn s).1, (x.runOn s).2, seen) := rfl

theorem annotates_pure (a : α) : (pure a : Action (σ × List ν) α).Annotates (pure a) :=
  fun _ => ⟨[], fun seen => by rw [List.append_nil]; rfl⟩

theorem annotates_ofExcept (answer : Except Halt α) :
    (ofExcept answer : Action (σ × List ν) α).Annotates (ofExcept answer) :=
  fun _ => ⟨[], fun seen => by rw [List.append_nil]; rfl⟩

theorem annotates_onFirst (x : Action σ α) :
    (onFirst x : Action (σ × List ν) α).Annotates x :=
  fun s => ⟨[], fun seen => by rw [List.append_nil, runOn_onFirst]⟩

theorem Annotates.note {y : Action (σ × List ν) α} {x : Action σ α} (annotates : y.Annotates x)
    (n : ν) : (note n >>= fun _ => y).Annotates x := by
  intro s
  obtain ⟨new, ran⟩ := annotates s
  refine ⟨n :: new, fun seen => ?_⟩
  rw [runOn_note_bind, ran, List.append_assoc, List.singleton_append]

theorem Annotates.bind {y : Action (σ × List ν) α} {x : Action σ α}
    {g : α → Action (σ × List ν) β} {f : α → Action σ β} (first : y.Annotates x)
    (next : ∀ a, (g a).Annotates (f a)) : (y >>= g).Annotates (x >>= f) := by
  intro s
  obtain ⟨new, ran⟩ := first s
  rcases plain : x.runOn s with ⟨h | a, between⟩
  · refine ⟨new, fun seen => ?_⟩
    rw [runOn_bind_error plain, runOn_bind_error (by rw [ran, plain])]
  · obtain ⟨more, continued⟩ := next a between
    refine ⟨new ++ more, fun seen => ?_⟩
    rw [runOn_bind_ok plain, runOn_bind_ok (by rw [ran, plain]), continued, List.append_assoc]

/-- What a chain does when the plain call that comes first is known. -/
theorem runOn_onFirst_bind_ok {x : Action σ α} {g : α → Action (σ × List ν) β} {s between : σ}
    {a : α} (ran : x.runOn s = (.ok a, between)) (seen : List ν) :
    (onFirst x >>= g).runOn (s, seen) = (g a).runOn (between, seen) :=
  runOn_bind_ok (by rw [runOn_onFirst, ran])

theorem runOn_onFirst_bind_error {x : Action σ α} {g : α → Action (σ × List ν) β}
    {s between : σ} {h : Halt} (ran : x.runOn s = (.error h, between)) (seen : List ν) :
    (onFirst x >>= g).runOn (s, seen) = (.error h, between, seen) :=
  runOn_bind_error (by rw [runOn_onFirst, ran])

end Diffusion.Action
