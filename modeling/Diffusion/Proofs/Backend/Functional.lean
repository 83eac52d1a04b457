import Diffusion.Backend.Eager
import Diffusion.Proofs.Program.Retention

/-!
Backends whose answers are functions of their arguments.

Their state may still change, for instance to count calls, but no answer depends on it. Main
statement: `retain_answers`, by which what a replay computes solves the instructions one by one, in
whatever order and from whatever state they are carried out again.
-/

namespace Diffusion

namespace Action

variable {σ α β : Type}

/-- The answer is the same from every state. -/
def Steady (x : Action σ α) : Prop := ∀ s s', (x.runOn s).1 = (x.runOn s').1

/-- The call succeeds from every state, with one value. -/
def Answers (x : Action σ α) (a : α) : Prop := ∀ s, (x.runOn s).1 = .ok a

theorem steady_ofExcept (r : Except Halt α) : (ofExcept r : Action σ α).Steady := fun _ _ => rfl

theorem steady_pure (a : α) : (pure a : Action σ α).Steady := fun _ _ => rfl

theorem Steady.bind {x : Action σ α} {f : α → Action σ β} (first : x.Steady)
    (next : ∀ a, (f a).Steady) : (x >>= f).Steady := by
  intro s s'
  rcases ran : x.runOn s with ⟨answer, between⟩
  rcases ran' : x.runOn s' with ⟨answer', between'⟩
  have same : answer = answer' := by simpa only [ran, ran'] using first s s'
  subst same
  rw [runOn_bind, runOn_bind, ran, ran']
  cases answer with
  | error h => rfl
  | ok a => exact next a between between'

theorem Steady.answers {x : Action σ α} (steady : x.Steady) {s : σ} {a : α}
    (answered : (x.runOn s).1 = .ok a) : x.Answers a :=
  fun s' => (steady s' s).trans answered

theorem answers_pure (a : α) : (pure a : Action σ α).Answers a := fun _ => rfl

theorem Answers.bind {x : Action σ α} {f : α → Action σ β} {a : α} {b : β} (first : x.Answers a)
    (next : (f a).Answers b) : (x >>= f).Answers b := by
  intro s
  rcases ran : x.runOn s with ⟨answer, between⟩
  have answered := first s
  rw [ran] at answered
  cases answered
  rw [runOn_bind_ok ran]
  exact next between

end Action

/-- No answer depends on the state. -/
structure Backend.Functional {A : Arithmetic} {σ τ : Type} (B : Backend A σ τ) : Prop where
  scale : ∀ x factor, (B.scale x factor).Steady
  add : ∀ x y, (B.add x y).Steady
  sub : ∀ x y, (B.sub x y).Steady
  concat : ∀ x y, (B.concat x y).Steady
  split : ∀ x, (B.split x).Steady
  noise : ∀ x seed, (B.noise x seed).Steady
  predict : ∀ x timestep y, (B.predict x timestep y).Steady

/-- A network that is a function of its arguments. -/
def Network.Functional {A : Arithmetic} {ν : Type} (network : Network A ν) : Prop :=
  ∀ sample timestep conditioning, (network.predict sample timestep conditioning).Steady

theorem Network.functional_ofFunction {A : Arithmetic}
    (f : Tensor A.Elem → A.Elem → Tensor A.Elem → Except Halt (Tensor A.Elem)) :
    (ofFunction f).Functional :=
  fun _ _ _ => Action.steady_ofExcept _

theorem Backend.functional_eager {A : Arithmetic} {ν : Type} {network : Network A ν}
    (functional : network.Functional) : (eager (some network)).Functional where
  scale _ _ := Action.steady_pure _
  add _ _ := Action.steady_ofExcept _
  sub _ _ := Action.steady_ofExcept _
  concat _ _ := Action.steady_ofExcept _
  split _ := Action.steady_ofExcept _
  noise _ _ := Action.steady_pure _
  predict x timestep y := by
    change (callNetwork (some network) x timestep y).Steady
    unfold callNetwork
    split
    · exact Action.steady_ofExcept _
    · rename_i n same
      cases same
      split
      · exact Action.steady_ofExcept _
      · refine (functional x timestep y).bind fun noise => ?_
        split
        · exact Action.steady_ofExcept _
        · exact Action.steady_pure _

namespace Program

variable {A : Arithmetic} {σ τ : Type} {B : Backend A σ τ}

theorem steady_perform (functional : B.Functional) (held : Array (Option τ)) (op : Op A) :
    (perform B held op).Steady := by
  cases op with
  | scale input factor =>
      exact (Action.steady_ofExcept _).bind fun x => functional.scale x _
  | noise like seed =>
      exact (Action.steady_ofExcept _).bind fun x => functional.noise x seed
  | slice input half =>
      exact (Action.steady_ofExcept _).bind fun x =>
        (functional.split x).bind fun halves => Action.steady_pure _
  | add lhs rhs =>
      exact (Action.steady_ofExcept _).bind fun x =>
        (Action.steady_ofExcept _).bind fun y => functional.add x y
  | sub lhs rhs =>
      exact (Action.steady_ofExcept _).bind fun x =>
        (Action.steady_ofExcept _).bind fun y => functional.sub x y
  | concat lhs rhs =>
      exact (Action.steady_ofExcept _).bind fun x =>
        (Action.steady_ofExcept _).bind fun y => functional.concat x y
  | unet sample conditioning timestep =>
      exact (Action.steady_ofExcept _).bind fun x =>
        (Action.steady_ofExcept _).bind fun y => functional.predict x timestep y

/-- An instruction has a result, of the declared shape, over the values of a replay. -/
def Solved (B : Backend A σ τ) (values : Array τ) (i : Instruction A) (x : τ) : Prop :=
  (perform B (values.map some) i.op).Answers x ∧ B.shape x = i.shape

theorem Solved.mono {values more : Array τ}
    (kept : ∀ (v : Nat) (x : τ), values[v]? = some x → more[v]? = some x)
    {i : Instruction A} {x : τ} {s : σ} (solved : Solved B values i x) : Solved B more i x := by
  refine ⟨?_, solved.2⟩
  have performed : (perform B (values.map some) i.op).runOn s =
      (.ok x, ((perform B (values.map some) i.op).runOn s).2) := Prod.ext (solved.1 s) rfl
  have same : ∀ v ∈ i.op.operands, lookup (more.map some) v = lookup (values.map some) v := by
    intro v member
    obtain ⟨y, found⟩ := lookup_of_perform performed v member
    rw [found, lookup_eq_ok, Array.getElem?_map]
    rw [lookup_eq_ok, Array.getElem?_map, Option.map_eq_some_iff] at found
    obtain ⟨_, here, same⟩ := found
    rw [kept v _ here, Option.map_some, same]
  rw [perform_congr same]
  exact solved.1

theorem performDeclared_answers {values : Array τ} (value : Nat) {i : Instruction A} {x : τ}
    (solved : Solved B values i x) : (performDeclared B (values.map some) value i).Answers x := by
  refine solved.1.bind ?_
  rw [if_pos solved.2]
  exact Action.answers_pure x

theorem solved_of_performDeclared (functional : B.Functional) {values : Array τ} {value : Nat}
    {i : Instruction A} {s after : σ} {x : τ}
    (performed : (performDeclared B (values.map some) value i).runOn s = (.ok x, after)) :
    Solved B values i x := by
  obtain ⟨y, between, first, checked⟩ := Action.of_bind_ok performed
  split at checked
  · rename_i shape
    cases checked
    refine ⟨(steady_perform functional _ _).answers (s := s) ?_, shape⟩
    rw [first]
  · cases checked

/-- A replay that succeeds keeps the values it starts from and solves every instruction. -/
theorem solved_of_retain (functional : B.Functional) {is : List (Instruction A)}
    {values all : Array τ} {s after : σ}
    (ran : (retain B is values).runOn s = (.ok all, after)) :
    all.size = values.size + is.length ∧
      (∀ (v : Nat) (x : τ), values[v]? = some x → all[v]? = some x) ∧
      ∀ j i, is[j]? = some i → ∃ x, all[values.size + j]? = some x ∧ Solved B all i x := by
  induction is generalizing values s with
  | nil =>
      cases ran
      exact ⟨rfl, fun _ _ found => found, by simp⟩
  | cons first rest ih =>
      obtain ⟨x, between, performed, continued⟩ := Action.of_bind_ok ran
      obtain ⟨size, kept, solved⟩ := ih continued
      have grown : ∀ (v : Nat) (y : τ), values[v]? = some y → all[v]? = some y := by
        intro v y found
        refine kept v y ?_
        have inside := (Array.getElem?_eq_some_iff.mp found).1
        rw [Array.getElem?_push, if_neg (Nat.ne_of_lt inside), found]
      refine ⟨by rw [size, Array.size_push, List.length_cons]; omega, grown, ?_⟩
      intro j i found
      cases j with
      | zero =>
          have same : first = i := by simpa using found
          subst same
          refine ⟨x, kept _ x (by rw [Nat.add_zero, Array.getElem?_push_size]), ?_⟩
          exact (solved_of_performDeclared functional performed).mono (s := s) grown
      | succ j =>
          obtain ⟨y, here, solves⟩ := solved j i (by simpa using found)
          refine ⟨y, ?_, solves⟩
          rw [Array.size_push] at here
          rw [← here]
          congr 1
          omega

end Program

end Diffusion
