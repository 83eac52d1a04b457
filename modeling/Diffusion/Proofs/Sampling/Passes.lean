import Diffusion.Proofs.Backend.Orderly
import Diffusion.Proofs.Sampling.Rounds
import Diffusion.Proofs.Scheduler.Replanning

/-!
Using a scheduler again.

Planned timesteps alone do not make a scheduler usable: one that keeps its place in the pass must
still have a timestep to go for a step, and must be at its start for a whole loop. Main statements:
`Sampling.outcome_answered`, by which a new scheduler carries latents through a whole loop if the
network obeys, and `prospects_of_session`, by which in every state that calls can lead to, further
calls come back under these conditions and look outside the tables without them.
-/

namespace Diffusion

/-- The methods over sigmas keep their place in a pass. -/
def SchedulerId.KeepsPlace : SchedulerId → Prop
  | .pndm | .ddim | .ddpm => False
  | .eulerDiscrete | .eulerAncestralDiscrete | .lmsDiscrete => True

variable {A : Arithmetic} {σ τ ν : Type} {timestep : A.Elem} {rest : List A.Elem}

/-! ### Calls that come back -/

namespace Sampling

variable {B : Backend A σ τ} {scheduler : Scheduler A τ}

theorem settles_denoise (orderly : B.Orderly) (guidance : A.Elem) (conditioning latents : τ)
    (ready : scheduler.ReadyFor (fun _ => True) (timestep :: rest)) :
    ((denoise B guidance conditioning latents timestep).threaded scheduler).Settles
      fun stepped => stepped.2.ReadyFor (fun _ => True) rest := by
  let C := orderly.contract
  rw [threaded_round]
  refine (orderly.concat latents latents).bind fun doubled _ => ?_
  have scaled : ((Scheduler.scaleInput B doubled timestep).threaded scheduler).Settles
      fun scaled => scaled.2.ReadyFor (fun _ => True) (timestep :: rest) := by
    obtain ⟨placed, still, -, same | ⟨factor, scaled⟩⟩ :=
      ready.scaleInput B doubled (due_head timestep rest)
    · rw [same]
      exact Action.settles_pure still
    · rw [scaled]
      exact (orderly.scale doubled factor).bind fun _ _ => Action.settles_pure still
  refine scaled.bind fun ⟨input, placed⟩ still => ?_
  refine (orderly.predict input timestep conditioning).bind fun prediction _ => ?_
  refine (orderly.split prediction).bind fun ⟨unconditional, conditional⟩ _ => ?_
  refine (C.drawn_guide (w := ()) guidance trivial trivial).bind fun guided _ => ?_
  exact (C.meets_step (w := ()) still trivial trivial).imp fun _ stepped => stepped.2

theorem settles_denoiseAll (orderly : B.Orderly) (guidance : A.Elem) (conditioning latents : τ)
    {timesteps : List A.Elem} (ready : scheduler.ReadyFor (fun _ => True) timesteps)
    (completed : Nat) :
    (((denoiseAll B guidance conditioning timesteps latents).threaded completed).threaded
      scheduler).Settles fun _ => True := by
  induction timesteps generalizing scheduler latents completed with
  | nil => exact Action.settles_pure trivial
  | cons timestep rest ih =>
      rw [threaded_denoiseAll]
      exact (settles_denoise orderly guidance conditioning latents ready).bind
        fun ⟨next, left⟩ leftReady => ih next leftReady (completed + 1)

/-- Whether the rows of two batches can be counted in a word. -/
def CountableRows (latents : Shape) : Prop := ∀ batch ∈ latents.head?, 2 * batch < Halt.wordLimit

theorem settles_checkShapes {latents : Shape} (countable : CountableRows latents)
    (conditioning : Shape) :
    (Action.ofExcept (checkShapes latents conditioning) : Action σ Unit).Settles
      fun _ => True := by
  unfold checkShapes
  split
  · rename_i batch channels _ _
    split
    · exact Action.settles_fail _
    · rw [Halt.checked_eq_ok_iff.mpr ⟨countable batch rfl, rfl⟩, Halt.bind_ok]
      split
      · split
        · exact Action.settles_pure trivial
        · exact Action.settles_fail _
      · exact Action.settles_fail _
  · exact Action.settles_fail _

theorem returned_outcome (orderly : B.Orderly) (guidance : A.Elem) {latents conditioning : τ}
    (countable : CountableRows (B.shape latents))
    (ready : scheduler.ReadyFor (fun _ => True) scheduler.timesteps) (w : σ) :
    Halt.Returned (outcome B guidance latents conditioning w scheduler).answer := by
  have settles : (((run B guidance latents conditioning).threaded 0).threaded scheduler).Settles
      fun _ => True := by
    rw [threaded_run]
    split
    · exact Action.settles_fail _
    · refine (settles_checkShapes countable _).bind fun _ _ => ?_
      exact (orderly.scale latents scheduler.initialDeviation).bind fun noisy _ =>
        settles_denoiseAll orderly guidance conditioning noisy ready 0
  obtain ⟨answer, -⟩ := outcome_eq B guidance latents conditioning w scheduler
  rw [answer]
  intro h failed
  rcases settles w with ⟨_, _, ran, -⟩ | ⟨e, _, ran⟩
  · rw [ran] at failed
    cases failed
  · rw [ran] at failed
    cases failed
    exact ⟨e, rfl⟩

end Sampling

/-! ### Calls that look outside the tables -/

variable {network : Option (Network A ν)} {output sample : Tensor A.Elem}

namespace SigmaTrack

variable {s : SigmaTrack A} {i : Nat}

theorem Ready.sigma_after_last (ready : s.Ready i []) :
    s.sigma (i + 1) = .error .indexOutOfRange :=
  Halt.entry_beyond (Nat.le_of_eq ready.size.symm)

end SigmaTrack

theorem Euler.step_after_last (B : Backend A σ τ) {s : SigmaTrack A} {i : Nat}
    (ready : s.Ready i []) (output : τ) (timestep : A.Elem) (sample : τ) :
    (Euler.step B output timestep sample).threaded s =
      Action.ofExcept (.error .indexOutOfRange) := by
  obtain ⟨sigma, found⟩ := ready.placed.sigma_at
  rw [Euler.threaded_step, ready.located timestep nofun, Action.ofExcept_ok, pure_bind]
  dsimp only
  rw [Euler.advance, found, ready.placed.sigma_after_last]
  rfl

theorem EulerAncestral.step_after_last (B : Backend A σ τ) (seed : UInt64) {s : SigmaTrack A}
    {i : Nat} (ready : s.Ready i []) (output : τ) (timestep : A.Elem) (sample : τ) :
    (EulerAncestral.step B seed output timestep sample).threaded s =
      Action.ofExcept (.error .indexOutOfRange) := by
  obtain ⟨sigma, found⟩ := ready.placed.sigma_at
  rw [EulerAncestral.threaded_step, ready.located timestep nofun, Action.ofExcept_ok, pure_bind]
  dsimp only
  rw [EulerAncestral.advance, found, ready.placed.sigma_after_last]
  rfl

namespace LinearMultistep

theorem advance_after_last (B : Backend A σ τ) {s : LinearMultistep A τ} {i : Nat}
    (ready : s.track.Ready i []) (some : s.derivatives ≠ []) (sample : τ) :
    s.advance B i sample = Action.ofExcept (.error .indexOutOfRange) := by
  have short : s.track.sigmas.size ≤ i + 1 := Nat.le_of_eq ready.size.symm
  obtain ⟨order, counted⟩ := exists_order i some
  unfold advance
  dsimp only
  rw [counted, List.range_succ_eq_map, List.mapM_cons, coefficient_beyond short]
  rfl

/-- The sigma at the place is there, so the derivative is computed before the next one is missed. -/
theorem step_after_last (B : Backend A σ τ) {s : LinearMultistep A τ} {i : Nat}
    (ready : s.track.Ready i []) (output : τ) (timestep : A.Elem) (sample : τ) :
    ∃ sigma, (LinearMultistep.step B output timestep sample).threaded s = (do
      let _ ← SigmaTrack.derivative B { s.track with place := some i } sigma output sample
      Action.ofExcept (.error .indexOutOfRange)) := by
  obtain ⟨sigma, found⟩ := ready.placed.sigma_at
  refine ⟨sigma, ?_⟩
  rw [threaded_step, ready.located timestep nofun, Action.ofExcept_ok, pure_bind]
  dsimp only
  rw [found, Action.ofExcept_ok, pure_bind]
  refine congrArg (_ >>= ·) (funext fun derivative => ?_)
  rw [advance_after_last B ready.placed (List.cons_ne_nil _ _)]
  rfl

end LinearMultistep

/-- When no timestep is left, a step on tensors that fit together asks for a sigma after the last
one. -/
theorem Scheduler.step_after_last {fits : Tensor A.Elem → Prop}
    {scheduler : Scheduler A (Tensor A.Elem)} (ready : scheduler.ReadyFor fits [])
    (keeps : scheduler.id.KeepsPlace) (same : output.shape = sample.shape) (timestep : A.Elem) :
    (step (.eager network) output timestep sample).threaded scheduler =
      Action.ofExcept (.error .indexOutOfRange) := by
  cases ready with
  | pndm | ddim | ddpm => cases keeps
  | euler track =>
      rw [threaded_step_euler, Euler.step_after_last _ track]
      rfl
  | eulerAncestral track =>
      rw [threaded_step_eulerAncestral, EulerAncestral.step_after_last _ _ track]
      rfl
  | linearMultistep track =>
      obtain ⟨sigma, steps⟩ :=
        LinearMultistep.step_after_last (.eager network) track output timestep sample
      obtain ⟨derivative, computed, -⟩ :=
        (Backend.elementwise network sample.shape).drawn_derivative (w := ()) sigma same rfl
      rw [threaded_step_linearMultistep, steps, computed]
      rfl

theorem Scheduler.id_of_moves {s s' : Scheduler A τ} (moves : s.Moves s') : s'.id = s.id := by
  cases moves <;> rfl

theorem Scheduler.keepsPlace_of_visited {s : Scheduler A τ} (begun : s.visited ≠ 0) :
    s.id.KeepsPlace := by
  cases s with
  | pndm | ddim | ddpm => exact absurd rfl begun
  | euler | eulerAncestral | linearMultistep => trivial

/-! ### Loops with a network that obeys -/

namespace Sampling

variable {network : Network A ν} {s double : Shape} {conditioning latents : Tensor A.Elem}
  {scheduler : Scheduler A (Tensor A.Elem)}

/-- A round with a network that obeys comes to its step. -/
theorem denoise_comes_to_step (obedient : network.Obedient) (guidance : A.Elem)
    (ready : scheduler.Ready s rest) (due : Due timestep rest) (doubles : s.Doubles double)
    (rows : double.head? = conditioning.shape.head?) (shape : latents.shape = s) (state : ν) :
    ∃ guided placed after, guided.shape = s ∧ placed.Ready s rest ∧ placed.id = scheduler.id ∧
      ((denoise (.eager (some network)) guidance conditioning latents timestep).threaded
        scheduler).runOn state =
      ((Scheduler.step (.eager (some network)) guided timestep latents).threaded placed).runOn
        after := by
  obtain ⟨input, placed, inputShape, -, still, kind, round⟩ :=
    threaded_denoise_ready (some network) guidance conditioning ready due doubles shape
  obtain ⟨noise, after, called, noiseShape⟩ := Backend.callNetwork_obedient obedient timestep
    ((congrArg List.head? inputShape).trans rows) state
  obtain ⟨guided, guidedShape, concludes⟩ := exists_guided (some network) guidance timestep
    doubles (noiseShape.trans inputShape)
  refine ⟨guided, placed, after, guidedShape, still, kind, ?_⟩
  rw [round, Action.runOn_bind_ok called, concludes]

theorem denoise_answered (obedient : network.Obedient) (guidance : A.Elem)
    (ready : scheduler.Ready s (timestep :: rest)) (doubles : s.Doubles double)
    (rows : double.head? = conditioning.shape.head?) (shape : latents.shape = s) (state : ν) :
    ∃ next after left, next.shape = s ∧ left.Ready s rest ∧ left.id = scheduler.id ∧
      (denoise (.eager (some network)) guidance conditioning latents timestep).runOn
        (state, scheduler) = (.ok next, after, left) := by
  obtain ⟨guided, placed, after, guidedShape, still, kind, round⟩ :=
    denoise_comes_to_step obedient guidance ready (due_head timestep rest) doubles rows shape state
  obtain ⟨⟨next, left⟩, stepped, nextShape, leftReady⟩ :
      ((Scheduler.step (.eager (some network)) guided timestep latents).threaded
        placed).Yields fun stepped => stepped.1.shape = s ∧ stepped.2.Ready s rest :=
    still.step guidedShape shape
  have moves := Scheduler.moves_step (.eager (some network)) guided timestep latents after placed
  rw [Action.of_threaded_ok (by rw [stepped, Action.runOn_pure])] at moves
  refine ⟨next, after, left, nextShape, leftReady,
    (Scheduler.id_of_moves moves).trans kind, ?_⟩
  apply Action.of_threaded_ok
  rw [round, stepped, Action.runOn_pure]

/-- With a network that obeys, a loop over timesteps comes back with latents. -/
theorem denoiseAll_answered (obedient : network.Obedient) (guidance : A.Elem)
    (doubles : s.Doubles double) (rows : double.head? = conditioning.shape.head?)
    {timesteps : List A.Elem} (ready : scheduler.Ready s timesteps) (shape : latents.shape = s)
    (state : ν) (before : Nat) :
    ∃ result after, result.shape = s ∧
      (denoiseAll (.eager (some network)) guidance conditioning timesteps latents).runOn
        ((state, scheduler), before) = (.ok result, after) := by
  induction timesteps generalizing scheduler latents state before with
  | nil => exact ⟨latents, _, shape, rfl⟩
  | cons timestep rest ih =>
      obtain ⟨next, after, left, nextShape, leftReady, -, ran⟩ :=
        denoise_answered obedient guidance ready doubles rows shape state
      rw [runOn_denoiseAll_ok ran]
      exact ih leftReady nextShape after (before + 1)

theorem outcome_answered (counts : A.CountsAreNumbers) {id : SchedulerId}
    {config : ScheduleConfig A} {seed : UInt64} {steps : Nat}
    (planned : Scheduler.planned id config seed steps = .ok scheduler)
    (obedient : network.Obedient) {batch height width length embedding : Nat}
    (inhabited : 0 < batch)
    (latentShape : latents.shape = [batch, InputShapes.latentChannels, height, width])
    (conditioningShape : conditioning.shape = [2 * batch, length, embedding])
    (fits : Shape.span [2 * batch, InputShapes.latentChannels, height, width] < spanLimit)
    (guidance : A.Elem) (start : ν) :
    ∃ result, (outcome (.eager (some network)) guidance latents conditioning start
      scheduler).answer = .ok result ∧ result.shape = latents.shape := by
  obtain ⟨positive, count, ready⟩ := Scheduler.ready_of_planned counts latents.shape planned
  have rows : 2 * batch ≤ Shape.span [2 * batch, InputShapes.latentChannels, height, width] := by
    rw [Shape.span_cons_of_ne_zero (by omega)]
    exact Nat.le_mul_of_pos_right _ (Shape.span_pos _)
  have accepted : checkShapes latents.shape conditioning.shape = .ok () := by
    rw [latentShape, conditioningShape]
    exact checkShapes_of_shapes (Nat.lt_of_le_of_lt rows (fits.trans (by decide)))
  have doubles : latents.shape.Doubles
      [2 * batch, InputShapes.latentChannels, height, width] :=
    ⟨latentShape ▸ Shape.stack?_self _ _, latentShape ▸ Shape.half?_double inhabited _, fits⟩
  have noisyShape : (latents.scale scheduler.initialDeviation).shape = latents.shape := rfl
  obtain ⟨result, ⟨⟨after, left⟩, completed⟩, shape, ran⟩ := denoiseAll_answered obedient guidance
    doubles (by rw [conditioningShape]; rfl) ready noisyShape start 0
  have whole := (runOn_run_eager (some network) guidance
    (List.length_pos_iff.mp (count ▸ positive)) accepted start).trans ran
  rw [outcome_of_runOn whole]
  exact ⟨result, rfl, shape⟩

/-- With more timesteps to go than the scheduler is ready for, the loop ends where it would need
another sigma. -/
theorem denoiseAll_beyond (obedient : network.Obedient) (guidance : A.Elem)
    (doubles : s.Doubles double) (rows : double.head? = conditioning.shape.head?)
    {due beyond : List A.Elem} (ready : scheduler.Ready s due) (keeps : scheduler.id.KeepsPlace)
    (more : beyond ≠ []) (shape : latents.shape = s) (state : ν) (before : Nat) :
    ∃ after, (denoiseAll (.eager (some network)) guidance conditioning (due ++ beyond)
      latents).runOn ((state, scheduler), before) = (.error .indexOutOfRange, after) := by
  induction due generalizing scheduler latents state before with
  | nil =>
      obtain ⟨timestep, rest, rfl⟩ := List.exists_cons_of_ne_nil more
      obtain ⟨guided, placed, after, guidedShape, still, kind, round⟩ :=
        denoise_comes_to_step obedient guidance ready (show Due timestep [] from nofun) doubles
          rows shape state
      rw [Scheduler.step_after_last still (kind ▸ keeps) (guidedShape.trans shape.symm)] at round
      obtain ⟨left, failed⟩ := Action.of_threaded_error round
      exact ⟨_, runOn_denoiseAll_error failed before⟩
  | cons timestep rest ih =>
      obtain ⟨next, after, left, nextShape, leftReady, kind, ran⟩ :=
        denoise_answered obedient guidance ready doubles rows shape state
      rw [List.cons_append, runOn_denoiseAll_ok ran]
      exact ih leftReady (kind ▸ keeps) nextShape after _

end Sampling

/-! ### Prospects -/

namespace Scheduler

section Sound

variable {s : Scheduler A (Tensor A.Elem)} (sound : s.Sound)

include sound

theorem Sound.returned_step {B : Backend A σ (Tensor A.Elem)} (orderly : B.Orderly)
    (member : timestep ∈ s.timesteps) (left : s.visited < s.timesteps.length)
    (output sample : Tensor A.Elem) (w : σ) :
    Halt.Returned ((step B output timestep sample).runOn (w, s)).1 := by
  obtain ⟨later, ready⟩ : ∃ later, s.ReadyFor (fun _ => True) (timestep :: later) :=
    sound.readyFor_step (fun _ _ => trivial) member left
  exact Action.Settles.returned (x := step B output timestep sample)
    (orderly.contract.meets_step (w := ()) ready trivial trivial) w

variable (planned : s.timesteps ≠ [])

include planned

theorem Sound.step_beyond (spent : s.visited = s.timesteps.length) (network : Option (Network A ν))
    (same : output.shape = sample.shape) (timestep : A.Elem) (w : ν) :
    ((step (.eager network) output timestep sample).runOn (w, s)).1 =
      .error .indexOutOfRange := by
  have begun : s.visited ≠ 0 := fun none =>
    planned (List.length_eq_zero_iff.mp (spent.symm.trans none))
  have ready : s.ReadyFor (fun _ => True)
      (s.timesteps.take (s.timesteps.length - s.visited)) :=
    sound.readyFor_rest (fun _ _ => trivial) planned begun
  rw [spent, Nat.sub_self, List.take_zero] at ready
  have stopped : ((step (.eager network) output timestep sample).threaded s).runOn w =
      (.error .indexOutOfRange, w) := by
    rw [step_after_last ready (keepsPlace_of_visited begun) same]
    rfl
  obtain ⟨left, failed⟩ := Action.of_threaded_error stopped
  rw [failed]

theorem Sound.run_beyond (begun : s.visited ≠ 0) {network : Network A ν}
    (obedient : network.Obedient) (guidance : A.Elem) {latents conditioning : Tensor A.Elem} (w : ν)
    {batch height width length embedding : Nat} (inhabited : 0 < batch)
    (latentShape : latents.shape = [batch, InputShapes.latentChannels, height, width])
    (conditioningShape : conditioning.shape = [2 * batch, length, embedding])
    (room : Shape.span [2 * batch, InputShapes.latentChannels, height, width] < spanLimit)
    (fit : ∀ x ∈ s.remembered, x.shape = latents.shape) :
    (Sampling.outcome (.eager (some network)) guidance latents conditioning w s).answer =
      .error .indexOutOfRange := by
  have noisyShape : (latents.scale s.initialDeviation).shape =
      [batch, InputShapes.latentChannels, height, width] := latentShape
  have doubles : Shape.Doubles [batch, InputShapes.latentChannels, height, width]
      [2 * batch, InputShapes.latentChannels, height, width] :=
    ⟨Shape.stack?_self _ _, Shape.half?_double inhabited _, room⟩
  have ready : s.Ready [batch, InputShapes.latentChannels, height, width]
      (s.timesteps.take (s.timesteps.length - s.visited)) :=
    sound.readyFor_rest (fun x member => (fit x member).trans latentShape) planned begun
  have more : s.timesteps.drop (s.timesteps.length - s.visited) ≠ [] := by
    have le := sound.visited_le
    rw [Ne, List.drop_eq_nil_iff]
    omega
  have rows : some (2 * batch) = conditioning.shape.head? := by
    rw [conditioningShape]
    rfl
  obtain ⟨after, ran⟩ := Sampling.denoiseAll_beyond obedient guidance doubles rows ready
    (keepsPlace_of_visited begun) more noisyShape w 0
  rw [List.take_append_drop] at ran
  have word : 2 * batch < Halt.wordLimit :=
    Nat.lt_of_le_of_lt (Shape.le_span_cons _ _) (room.trans (by decide))
  have accepted : Sampling.checkShapes latents.shape conditioning.shape = .ok () := by
    rw [latentShape, conditioningShape]
    exact Sampling.checkShapes_of_shapes word
  rw [Sampling.outcome_of_runOn
    ((Sampling.runOn_run_eager (some network) guidance planned accepted w).trans ran)]

end Sound

/-- What can be expected of one more call on a scheduler with a planned pass. -/
structure Prospects (s : Scheduler A (Tensor A.Elem)) : Prop where
  visited_le : s.visited ≤ s.timesteps.length
  keepsPlace : s.visited ≠ 0 → s.id.KeepsPlace
  step_returns : s.visited < s.timesteps.length → ∀ {σ : Type} {B : Backend A σ (Tensor A.Elem)},
    B.Orderly → ∀ timestep ∈ s.timesteps, ∀ output sample w,
      Halt.Returned ((step B output timestep sample).runOn (w, s)).1
  step_beyond : s.visited = s.timesteps.length → ∀ {ν : Type} (network : Option (Network A ν))
    (output sample : Tensor A.Elem) timestep w, output.shape = sample.shape →
      ((step (.eager network) output timestep sample).runOn (w, s)).1 = .error .indexOutOfRange
  run_returns : s.visited = 0 → ∀ {σ : Type} {B : Backend A σ (Tensor A.Elem)}, B.Orderly →
    ∀ guidance latents conditioning w, Sampling.CountableRows (B.shape latents) →
      Halt.Returned (Sampling.outcome B guidance latents conditioning w s).answer
  run_beyond : s.visited ≠ 0 → ∀ {ν : Type} {network : Network A ν}, network.Obedient →
    ∀ guidance (latents conditioning : Tensor A.Elem) w {batch height width length embedding : Nat},
      0 < batch → latents.shape = [batch, InputShapes.latentChannels, height, width] →
      conditioning.shape = [2 * batch, length, embedding] →
      Shape.span [2 * batch, InputShapes.latentChannels, height, width] < spanLimit →
      (∀ x ∈ s.remembered, x.shape = latents.shape) →
      (Sampling.outcome (.eager (some network)) guidance latents conditioning w s).answer =
        .error .indexOutOfRange

theorem Sound.prospects {s : Scheduler A (Tensor A.Elem)} (sound : s.Sound)
    (planned : s.timesteps ≠ []) : s.Prospects where
  visited_le := sound.visited_le
  keepsPlace := keepsPlace_of_visited
  step_returns left _ _ orderly _ member output sample w :=
    sound.returned_step orderly member left output sample w
  step_beyond spent _ network _ _ timestep w same :=
    sound.step_beyond planned spent network same timestep w
  run_returns start _ _ orderly guidance _ _ w countable :=
    Sampling.returned_outcome orderly guidance countable
      (sound.readyFor_pass (fun _ _ => trivial) planned start) w
  run_beyond begun _ _ obedient guidance _ _ w _ _ _ _ _ inhabited latentShape conditioningShape
      room fit :=
    sound.run_beyond planned begun obedient guidance w inhabited latentShape conditioningShape room
      fit

/-- Whatever was called on a scheduler before, as long as it has timesteps: a step comes back unless
all of them are visited, and a whole loop if none is. A loop later in the pass looks for sigmas
behind the last one, and so does a step when none is left. -/
theorem prospects_of_session (counts : A.CountsAreNumbers) {id : SchedulerId}
    {config : ScheduleConfig A} {seed : UInt64} {new : Scheduler A (Tensor A.Elem)}
    (made : create id config seed = .ok new) (calls : List (Call A σ (Tensor A.Elem))) (w : σ)
    (planned : (session calls (w, new)).2.2.timesteps ≠ []) :
    (session calls (w, new)).2.2.Prospects :=
  (sound_session counts made calls w).prospects planned

/-- A loop over latents of one place, with a network that answers with its sample. -/
def smallPass : Call whole Unit (Tensor Int) :=
  .run (Backend.eager (some (.ofFunction fun sample _ _ => .ok sample))) (2 : Int)
    (.fill [1, 4, 1, 1] 3) (.fill [2, 1, 1] 0)

/-- Euler's method after a pass of one step: it has a timestep, and no step is left. -/
theorem prospects_of_session_smallPass :
    ∃ new : Scheduler whole (Tensor Int), create .eulerDiscrete noiseless 0 = .ok new ∧
      let ended := session [.plan 1, smallPass] ((), new)
      answered ended.1 = [true, true] ∧ ended.2.2.timesteps ≠ [] ∧
        ended.2.2.visited = ended.2.2.timesteps.length ∧ ended.2.2.Prospects := by
  have runs : (create .eulerDiscrete noiseless 0).toOption.map (fun new =>
      let ended := session [.plan 1, smallPass] ((), new)
      (answered ended.1, ended.2.2.visited, ended.2.2.timesteps.length)) =
        some ([true, true], 1, 1) := by
    decide +kernel
  obtain ⟨new, created, result⟩ := Option.map_eq_some_iff.mp runs
  obtain ⟨replies, counts⟩ := Prod.mk.inj result
  obtain ⟨visited, length⟩ := Prod.mk.inj counts
  have made := Halt.toOption_eq_some_iff.mp created
  have planned : (session [.plan 1, smallPass] ((), new)).2.2.timesteps ≠ [] :=
    List.length_pos_iff.mp (by rw [length]; exact Nat.one_pos)
  exact ⟨new, made, replies, planned, visited.trans length.symm,
    prospects_of_session whole_countsAreNumbers made _ () planned⟩

/-- Whether a call looked outside a table. -/
def lookedOutside : Except Halt (Option τ) → Bool
  | .error .indexOutOfRange => true
  | _ => false

/-- The same pass made again, without a new plan. -/
theorem session_smallPass_again :
    (create .eulerDiscrete noiseless 0).toOption.map (fun new =>
      let ended := session [.plan 1, smallPass, smallPass] ((), new)
      (answered ended.1, ended.1.map fun reply => lookedOutside reply.answer)) =
    some ([true, true, false], [false, false, true]) := by
  decide +kernel

end Scheduler

end Diffusion
