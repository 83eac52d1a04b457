import Diffusion.Proofs.Scheduler.Ready

/-!
One round of the guided loop, and what its network hears.

`Network.overheard` keeps a record of all calls of a network and of its answers. An answer obeys
when it is a tensor of the sample's shape. Main statement: `Sampling.denoise_overheard`, by which a
round makes one call, on a doubled sample, and ends in failure only if the answer does not obey.
-/

namespace Diffusion

variable {A : Arithmetic} {ν : Type}

/-- A call of a network with the answer to it. -/
structure Heard (A : Arithmetic) where
  call : NetworkCall A
  answer : Except Halt (Tensor A.Elem)

/-- The network with a record of its calls and answers, oldest first. -/
def Network.overheard (network : Network A ν) : Network A (ν × List (Heard A)) where
  predict sample timestep conditioning := fun (state, heard) =>
    let (answer, state) := (network.predict sample timestep conditioning).runOn state
    (answer, state, heard ++ [⟨⟨sample, timestep, conditioning⟩, answer⟩])

theorem Network.Obedient.overheard {network : Network A ν} (obedient : network.Obedient) :
    network.overheard.Obedient := by
  intro sample timestep conditioning ⟨state, heard⟩
  obtain ⟨noise, after, answered, same⟩ := obedient sample timestep conditioning state
  refine ⟨noise, (after, heard ++ [⟨⟨sample, timestep, conditioning⟩, .ok noise⟩]), ?_, same⟩
  change (let ran := (network.predict sample timestep conditioning).runOn state
    (ran.1, ran.2, heard ++ [(⟨⟨sample, timestep, conditioning⟩, ran.1⟩ : Heard A)])) = _
  rw [answered]

/-- A tensor with two equal halves along the batch. -/
def Tensor.Doubled {α : Type} (a : Tensor α) : Prop :=
  ∃ s, ∃ halved : Shape.half? a.shape = some s, a.firstHalf halved = a.secondHalf halved

namespace Heard

/-- The answer is a tensor of the sample's shape. -/
def Obeyed (h : Heard A) : Prop :=
  ∃ noise, h.answer = .ok noise ∧ noise.shape = h.call.sample.shape

/-- What is made of an answer that does not obey: the network's own error stays as it is. -/
def refusal (h : Heard A) : Halt :=
  match h.answer with
  | .ok noise => .error (.networkShape noise.shape h.call.sample.shape)
  | .error halt => halt

/-- The call is one for a timestep, on a doubled sample of a shape. -/
structure Asks (h : Heard A) (conditioning : Tensor A.Elem) (shape : Shape) (timestep : A.Elem) :
    Prop where
  timestep : h.call.timestep = timestep
  conditioning : h.call.conditioning = conditioning
  shape : h.call.sample.shape = shape
  doubled : h.call.sample.Doubled

end Heard

/-- The batch of a shape can be doubled, and tensors of the double have a layout. -/
structure Shape.Doubles (s double : Shape) : Prop where
  stacked : stack? s s = some double
  halved : half? double = some s
  fits : double.span < spanLimit

theorem Shape.stack?_self (n : Nat) (rest : Shape) :
    stack? (n :: rest) (n :: rest) = some (2 * n :: rest) := by
  rw [stack?, if_pos rfl, Nat.two_mul]

theorem Shape.half?_double {n : Nat} (inhabited : 0 < n) (rest : Shape) :
    half? (2 * n :: rest) = some (n :: rest) := by
  rw [half?, if_neg (by omega), Nat.mul_div_cancel_left n Nat.two_pos]

/-- Half of a double batch is a batch of its own shape. -/
theorem Shape.eq_of_stack_half {s double half : Shape} (stacked : stack? s s = some double)
    (halved : half? double = some half) : half = s := by
  cases s with
  | nil => cases stacked
  | cons n rest =>
      rw [stack?_self] at stacked
      cases stacked
      unfold half? at halved
      dsimp only at halved
      split at halved
      · cases halved
      · cases halved
        rw [Nat.mul_div_cancel_left n Nat.two_pos]

theorem Tensor.Doubled.scale {a : Tensor A.Elem} (doubled : a.Doubled) (factor : A.Elem) :
    (a.scale factor).Doubled := by
  obtain ⟨s, halved, same⟩ := doubled
  refine ⟨s, halved, ?_⟩
  calc (a.map (· * factor)).firstHalf halved
      = (a.firstHalf halved).map (· * factor) := firstHalf_map _ a halved
    _ = (a.secondHalf halved).map (· * factor) := congrArg _ same
    _ = (a.map (· * factor)).secondHalf halved := (secondHalf_map _ a halved).symm

/-- Whatever a network does, it is heard, and its answer comes through if it obeys. -/
theorem Backend.callNetwork_overheard (network : Network A ν) {sample conditioning : Tensor A.Elem}
    (timestep : A.Elem) (rows : sample.shape.head? = conditioning.shape.head?) (state : ν)
    (heard : List (Heard A)) :
    ∃ h after, h.call = ⟨sample, timestep, conditioning⟩ ∧
      ((h.Obeyed ∧ ∃ noise, noise.shape = sample.shape ∧
          (callNetwork (some network.overheard) sample timestep conditioning).runOn
            (state, heard) = (.ok noise, after, heard ++ [h])) ∨
        (¬ h.Obeyed ∧ (callNetwork (some network.overheard) sample timestep conditioning).runOn
          (state, heard) = (.error h.refusal, after, heard ++ [h]))) := by
  rw [callNetwork_of_rows _ timestep rows, Action.runOn_bind]
  have listened : (network.overheard.predict sample timestep conditioning).runOn (state, heard) =
      let ran := (network.predict sample timestep conditioning).runOn state
      (ran.1, ran.2, heard ++ [⟨⟨sample, timestep, conditioning⟩, ran.1⟩]) := rfl
  rw [listened]
  rcases (network.predict sample timestep conditioning).runOn state with ⟨answer, after⟩
  let h : Heard A := ⟨⟨sample, timestep, conditioning⟩, answer⟩
  refine ⟨h, after, rfl, ?_⟩
  cases answer with
  | error halt =>
      refine .inr ⟨?_, rfl⟩
      rintro ⟨_, impossible, _⟩
      cases impossible
  | ok noise =>
      by_cases same : noise.shape = sample.shape
      · refine .inl ⟨⟨noise, rfl, same⟩, noise, same, ?_⟩
        dsimp only
        rw [if_neg (not_not_intro same), Action.runOn_pure]
      · refine .inr ⟨?_, ?_⟩
        · rintro ⟨_, answered, obeys⟩
          cases answered
          exact same obeys
        · dsimp only
          rw [if_pos same]
          rfl

namespace Sampling

variable {σ τ : Type} {s double : Shape} {timestep : A.Elem} {rest : List A.Elem}
  {conditioning latents : Tensor A.Elem} {scheduler : Scheduler A (Tensor A.Elem)}

/-! ### One round -/

/-- A round is one call of the network, on latents laid twice, and what is done with its answer. -/
theorem threaded_denoise_ready (network : Option (Network A ν)) (guidance : A.Elem)
    (conditioning : Tensor A.Elem) (ready : scheduler.Ready s rest) (due : Due timestep rest)
    (doubles : s.Doubles double) (shape : latents.shape = s) :
    ∃ input placed, input.shape = double ∧ input.Doubled ∧ placed.Ready s rest ∧
      placed.id = scheduler.id ∧
      (denoise (.eager network) guidance conditioning latents timestep).threaded scheduler =
        Backend.callNetwork network input timestep conditioning >>= fun prediction =>
          conclude (.eager network) guidance timestep latents prediction placed := by
  subst shape
  have laid : (Backend.eager network).concat latents latents =
      pure (latents.stack latents doubles.stacked) := by
    apply Action.ext
    intro state
    rw [Backend.runOn_concat doubles.stacked, if_pos doubles.fits, Action.runOn_pure]
  have alike : (latents.stack latents doubles.stacked).Doubled :=
    ⟨_, doubles.halved, by rw [Tensor.firstHalf_stack, Tensor.secondHalf_stack _ _ rfl]⟩
  obtain ⟨⟨input, placed⟩, scaled, multiple, still, kind⟩ :=
    ready.scaleInput network (latents.stack latents doubles.stacked) due
  refine ⟨input, placed, ?_, ?_, still, kind, ?_⟩
  · rcases multiple with rfl | ⟨factor, rfl⟩ <;> rfl
  · rcases multiple with rfl | ⟨factor, rfl⟩
    · exact alike
    · exact alike.scale factor
  · rw [threaded_round, laid, pure_bind, scaled, pure_bind]
    rfl

/-- An answer that obeys is split and guided, and a step is made by what comes of it. -/
theorem exists_guided (network : Option (Network A ν)) (guidance timestep : A.Elem)
    (doubles : s.Doubles double) {prediction : Tensor A.Elem} (obeys : prediction.shape = double) :
    ∃ guided, guided.shape = s ∧ ∀ latents scheduler,
      conclude (.eager network) guidance timestep latents prediction scheduler =
        (Scheduler.step (.eager network) guided timestep latents).threaded scheduler := by
  subst obeys
  have cut : (Backend.eager network).split prediction =
      pure (prediction.firstHalf doubles.halved, prediction.secondHalf doubles.halved) := by
    apply Action.ext
    intro state
    rw [Backend.runOn_split doubles.halved, Action.runOn_pure]
  obtain ⟨guided, computed, shape⟩ : ((Backend.eager network).guide
      (prediction.firstHalf doubles.halved) (prediction.secondHalf doubles.halved)
      guidance).Yields (·.shape = s) :=
    Backend.yields_guide guidance rfl rfl
  refine ⟨guided, shape, fun latents scheduler => ?_⟩
  rw [conclude, cut, pure_bind]
  dsimp only
  rw [computed, pure_bind]

theorem yields_conclude (network : Option (Network A ν)) (guidance : A.Elem)
    (ready : scheduler.Ready s (timestep :: rest)) (doubles : s.Doubles double)
    (shape : latents.shape = s) {prediction : Tensor A.Elem} (obeys : prediction.shape = double) :
    (conclude (.eager network) guidance timestep latents prediction scheduler).Yields
      fun stepped => stepped.1.shape = s ∧ stepped.2.Ready s rest := by
  obtain ⟨guided, guidedShape, concludes⟩ := exists_guided network guidance timestep doubles obeys
  rw [concludes]
  exact ready.step guidedShape shape

theorem denoise_overheard (network : Network A ν) (guidance : A.Elem)
    (ready : scheduler.Ready s (timestep :: rest)) (doubles : s.Doubles double)
    (rows : double.head? = conditioning.shape.head?) (shape : latents.shape = s) (state : ν)
    (heard : List (Heard A)) :
    let ran := (denoise (.eager (some network.overheard)) guidance conditioning latents
      timestep).runOn ((state, heard), scheduler)
    ∃ h after left, h.Asks conditioning double timestep ∧
      ((h.Obeyed ∧ left.Ready s rest ∧ ∃ next, next.shape = s ∧
          ran = (.ok next, (after, heard ++ [h]), left)) ∨
        (¬ h.Obeyed ∧ ran = (.error h.refusal, (after, heard ++ [h]), left))) := by
  intro ran
  obtain ⟨input, placed, inputShape, alike, placedReady, -, round⟩ :=
    threaded_denoise_ready (some network.overheard) guidance conditioning ready
      (due_head timestep rest) doubles shape
  obtain ⟨h, after, asked, outcome⟩ := Backend.callNetwork_overheard network timestep
    ((congrArg List.head? inputShape).trans rows) state heard
  have asks : h.Asks conditioning double timestep := by
    constructor <;> rw [asked]
    · exact inputShape
    · exact alike
  rcases outcome with ⟨obeyed, noise, noiseShape, called⟩ | ⟨disobeyed, called⟩
  · obtain ⟨⟨next, left⟩, concluded, nextShape, leftReady⟩ :=
      yields_conclude (some network.overheard) guidance placedReady doubles shape
        (noiseShape.trans inputShape)
    refine ⟨h, after, left, asks, .inl ⟨obeyed, leftReady, next, nextShape, ?_⟩⟩
    apply Action.of_threaded_ok
    rw [round, Action.runOn_bind_ok called, concluded, Action.runOn_pure]
  · obtain ⟨left, failed⟩ := Action.of_threaded_error
      (x := denoise (.eager (some network.overheard)) guidance conditioning latents timestep)
      (r := scheduler) (by rw [round, Action.runOn_bind_error called])
    exact ⟨h, after, left, asks, .inr ⟨disobeyed, failed⟩⟩

end Sampling

end Diffusion
