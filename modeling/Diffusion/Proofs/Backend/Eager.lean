import Diffusion.Backend.Eager
import Diffusion.Proofs.Action

/-!
What the operations on tensors answer: when each of them succeeds, and the shape of its result.
-/

namespace Diffusion

/-- A network that answers every call with a tensor of the sample's shape. -/
def Network.Obedient {A : Arithmetic} {ν : Type} (network : Network A ν) : Prop :=
  ∀ sample timestep conditioning state, ∃ noise after,
    (network.predict sample timestep conditioning).runOn state = (.ok noise, after) ∧
      noise.shape = sample.shape

namespace Tensor

variable {A : Arithmetic}

theorem combine_same {a b : Tensor A.Elem} (operation : String) (f : A.Elem → A.Elem → A.Elem)
    (same : a.shape = b.shape) :
    a.combine operation f b = .ok (a.zipWith f b same) := by
  rw [combine, dif_pos same]

theorem concat_stacked {a b : Tensor A.Elem} {s : Shape}
    (stacked : Shape.stack? a.shape b.shape = some s) :
    a.concat b = if s.span < spanLimit then .ok (a.stack b stacked) else .error .stackTooLarge := by
  unfold concat
  split
  · rename_i none
    rw [none] at stacked
    cases stacked
  · rename_i other found
    have same : other = s := Option.some.inj (found.symm.trans stacked)
    subst same
    rfl

theorem concat_unstacked {a b : Tensor A.Elem} (none : Shape.stack? a.shape b.shape = none) :
    a.concat b = .error (.shapeMismatch "concat" a.shape b.shape) := by
  unfold concat
  split
  · rfl
  · rename_i found
    rw [none] at found
    cases found

/-- Doubling a tensor that was mapped is mapping the doubled one. -/
theorem concat_map (f : A.Elem → A.Elem) (a : Tensor A.Elem) :
    (a.map f).concat (a.map f) = (a.concat a).map (·.map f) := by
  cases stacked : Shape.stack? a.shape a.shape with
  | none =>
      rw [concat_unstacked stacked, concat_unstacked (a := a.map f) (b := a.map f) stacked]
      rfl
  | some s =>
      rw [concat_stacked stacked, concat_stacked (a := a.map f) (b := a.map f) stacked]
      split
      · apply congrArg Except.ok
        apply ext
        · rfl
        · exact Array.map_append.symm
      · rfl

theorem split_halved {a : Tensor A.Elem} {s : Shape} (halved : Shape.half? a.shape = some s) :
    a.split = .ok (a.firstHalf halved, a.secondHalf halved) := by
  unfold split
  split
  · rename_i none
    rw [none] at halved
    cases halved
  · rename_i other found
    have same : other = s := Option.some.inj (found.symm.trans halved)
    subst same
    rfl

theorem split_unsplittable {a : Tensor A.Elem} (none : Shape.half? a.shape = none) :
    a.split = .error (.unsplittable a.shape) := by
  unfold split
  split
  · rfl
  · rename_i found
    rw [none] at found
    cases found

theorem scale_one (neutral : A.OneIsNeutral) (a : Tensor A.Elem) : a.scale (A.narrow 1) = a :=
  map_id_of neutral a

end Tensor

namespace Backend

variable {A : Arithmetic} {ν : Type}

@[simp] theorem shape_eager (network : Option (Network A ν)) (a : Tensor A.Elem) :
    (eager network).shape a = a.shape := rfl

theorem runOn_combine_mismatched {operation : String} {f : A.Elem → A.Elem → A.Elem}
    {a b : Tensor A.Elem} (differ : a.shape ≠ b.shape) (state : ν) :
    (reported (a.combine operation f b)).runOn state =
      (.error (.error (.shapeMismatch operation a.shape b.shape)), state) := by
  rw [Tensor.combine, dif_neg differ]
  rfl

theorem runOn_add {network : Option (Network A ν)} {a b : Tensor A.Elem}
    (same : a.shape = b.shape) (state : ν) :
    ((eager network).add a b).runOn state = (.ok (a.zipWith (· + ·) b same), state) := by
  change (reported (a.combine "add" (· + ·) b)).runOn state = _
  rw [Tensor.combine_same _ _ same]
  rfl

theorem runOn_sub {network : Option (Network A ν)} {a b : Tensor A.Elem}
    (same : a.shape = b.shape) (state : ν) :
    ((eager network).sub a b).runOn state = (.ok (a.zipWith (· - ·) b same), state) := by
  change (reported (a.combine "sub" (· - ·) b)).runOn state = _
  rw [Tensor.combine_same _ _ same]
  rfl

theorem runOn_concat {network : Option (Network A ν)} {a b : Tensor A.Elem} {s : Shape}
    (stacked : Shape.stack? a.shape b.shape = some s) (state : ν) :
    ((eager network).concat a b).runOn state =
      (if s.span < spanLimit then .ok (a.stack b stacked) else .error (.error .stackTooLarge),
        state) := by
  change (reported (a.concat b)).runOn state = _
  rw [Tensor.concat_stacked stacked]
  split <;> rfl

theorem runOn_concat_unstacked {network : Option (Network A ν)} {a b : Tensor A.Elem}
    (none : Shape.stack? a.shape b.shape = none) (state : ν) :
    ((eager network).concat a b).runOn state =
      (.error (.error (.shapeMismatch "concat" a.shape b.shape)), state) := by
  change (reported (a.concat b)).runOn state = _
  rw [Tensor.concat_unstacked none]
  rfl

theorem stack_of_concat {network : Option (Network A ν)} {a b c : Tensor A.Elem} {state after : ν}
    (laid : ((eager network).concat a b).runOn state = (.ok c, after)) :
    Shape.stack? a.shape b.shape = some c.shape := by
  cases stacked : Shape.stack? a.shape b.shape with
  | none => cases (runOn_concat_unstacked stacked state).symm.trans laid
  | some s =>
      have ran := (runOn_concat stacked state).symm.trans laid
      split at ran
      · cases ran
        rfl
      · cases ran

theorem concat_map (network : Option (Network A ν)) (f : A.Elem → A.Elem) (a : Tensor A.Elem) :
    (eager network).concat (a.map f) (a.map f) =
      (eager network).concat a a >>= fun doubled => pure (doubled.map f) := by
  change reported ((a.map f).concat (a.map f)) = _
  rw [Tensor.concat_map]
  change _ = reported (a.concat a) >>= _
  cases a.concat a <;> rfl

theorem runOn_split {network : Option (Network A ν)} {a : Tensor A.Elem} {s : Shape}
    (halved : Shape.half? a.shape = some s) (state : ν) :
    ((eager network).split a).runOn state =
      (.ok (a.firstHalf halved, a.secondHalf halved), state) := by
  change (reported a.split).runOn state = _
  rw [Tensor.split_halved halved]
  rfl

theorem runOn_split_unsplittable {network : Option (Network A ν)} {a : Tensor A.Elem}
    (none : Shape.half? a.shape = none) (state : ν) :
    ((eager network).split a).runOn state = (.error (.error (.unsplittable a.shape)), state) := by
  change (reported a.split).runOn state = _
  rw [Tensor.split_unsplittable none]
  rfl

theorem half_of_split {network : Option (Network A ν)} {a u v : Tensor A.Elem} {state after : ν}
    (cut : ((eager network).split a).runOn state = (.ok (u, v), after)) :
    Shape.half? a.shape = some u.shape ∧ v.shape = u.shape := by
  cases halved : Shape.half? a.shape with
  | none => cases (runOn_split_unsplittable halved state).symm.trans cut
  | some s =>
      cases (runOn_split halved state).symm.trans cut
      exact ⟨rfl, rfl⟩

/-- A sum that meets a tensor of another shape fails there. -/
theorem runOn_addTerms_mismatched {network : Option (Network A ν)}
    {terms : List (A.Elem × Tensor A.Elem)} {sum : Tensor A.Elem}
    (differ : ∃ term ∈ terms, term.2.shape ≠ sum.shape) (state : ν) :
    ∃ h, ((eager network).addTerms sum terms).runOn state = (.error h, state) := by
  induction terms generalizing sum with
  | nil =>
      obtain ⟨term, absent, -⟩ := differ
      cases absent
  | cons term rest ih =>
      obtain ⟨coefficient, x⟩ := term
      have scaled : ((eager network).scale x coefficient).runOn state =
        (.ok (x.scale coefficient), state) := rfl
      rw [addTerms, Action.runOn_bind_ok scaled]
      by_cases same : sum.shape = x.shape
      · rw [Action.runOn_bind_ok (runOn_add (b := x.scale coefficient) same state)]
        obtain ⟨other, member, unlike⟩ := differ
        refine ih ⟨other, ?_, unlike⟩
        refine (List.mem_cons.mp member).resolve_left ?_
        rintro rfl
        exact unlike same.symm
      · have failed : ((eager network).add sum (x.scale coefficient)).runOn state =
            (.error _, state) :=
          runOn_combine_mismatched (b := x.scale coefficient) same state
        exact ⟨_, Action.runOn_bind_error failed⟩

theorem runOn_weightedSum_mismatched {network : Option (Network A ν)} {coefficient : A.Elem}
    {terms : List (A.Elem × Tensor A.Elem)} {x : Tensor A.Elem}
    (differ : ∃ term ∈ terms, term.2.shape ≠ x.shape) (state : ν) :
    ∃ h, ((eager network).weightedSum ((coefficient, x) :: terms)).runOn state =
      (.error h, state) := by
  have scaled : ((eager network).scale x coefficient).runOn state =
    (.ok (x.scale coefficient), state) := rfl
  rw [weightedSum, Action.runOn_bind_ok scaled]
  have unlike : ∃ term ∈ terms, term.2.shape ≠ (x.scale coefficient).shape := differ
  exact runOn_addTerms_mismatched unlike state

/-- With equally many rows the network is asked, and its answer must have the sample's shape. -/
theorem callNetwork_of_rows (network : Network A ν) {sample conditioning : Tensor A.Elem}
    (timestep : A.Elem) (rows : sample.shape.head? = conditioning.shape.head?) :
    callNetwork (some network) sample timestep conditioning =
      network.predict sample timestep conditioning >>= fun noise =>
        if noise.shape ≠ sample.shape then
          Action.fail (.networkShape noise.shape sample.shape)
        else pure noise := by
  rw [callNetwork, if_neg (not_not_intro rows)]

/-- A network that obeys is answered for whenever sample and conditioning have equally many rows. -/
theorem callNetwork_obedient {network : Network A ν} (obedient : network.Obedient)
    {sample conditioning : Tensor A.Elem} (timestep : A.Elem)
    (rows : sample.shape.head? = conditioning.shape.head?) (state : ν) :
    ∃ noise after, (callNetwork (some network) sample timestep conditioning).runOn state =
      (.ok noise, after) ∧ noise.shape = sample.shape := by
  obtain ⟨noise, after, answered, same⟩ := obedient sample timestep conditioning state
  refine ⟨noise, after, ?_, same⟩
  rw [callNetwork_of_rows network timestep rows, Action.runOn_bind_ok answered,
    if_neg (not_not_intro same), Action.runOn_pure]

/-- Whatever the network does, an answer that comes through has the shape of the sample. -/
theorem shape_of_callNetwork {network : Option (Network A ν)} {sample conditioning : Tensor A.Elem}
    {timestep : A.Elem} {state after : ν} {noise : Tensor A.Elem}
    (called : (callNetwork network sample timestep conditioning).runOn state =
      (.ok noise, after)) : noise.shape = sample.shape := by
  unfold callNetwork at called
  split at called
  · cases called
  · split at called
    · cases called
    · obtain ⟨answer, _, _, checked⟩ := Action.of_bind_ok called
      split at checked
      · cases checked
      · rename_i same
        cases checked
        exact Decidable.not_not.mp same

end Backend

end Diffusion
