import Diffusion.Network.StandIn
import Diffusion.Proofs.Program.Counting
import Diffusion.Proofs.Sampling.Overheard
import Diffusion.Proofs.Scheduler.Planned

/-!
The rounds of the guided loop over a whole pass.

`Rounds` describes what is heard over timesteps, by recursion on those left. Main statements:
`denoiseAll_overheard`, by which all loops over timesteps go like this, and `outcome_visits`, by
which the loop goes through the timesteps of a planned pass in order, with one call and one report
each, until they end or an answer does not obey.
-/

namespace Diffusion.Sampling

variable {A : Arithmetic} {ν σ τ : Type} {s double : Shape} {timestep : A.Elem}
  {rest : List A.Elem} {conditioning latents : Tensor A.Elem}
  {scheduler : Scheduler A (Tensor A.Elem)}

/-- How rounds over timesteps can go: what is heard, how many are completed, and the answer. -/
inductive Rounds (s double : Shape) (conditioning : Tensor A.Elem) :
    List A.Elem → List (Heard A) → Nat → Except Halt (Tensor A.Elem) → Prop where
  | done {latents : Tensor A.Elem} (shape : latents.shape = s) :
      Rounds s double conditioning [] [] 0 (.ok latents)
  | stopped {timestep : A.Elem} {rest : List A.Elem} {h : Heard A}
      (asks : h.Asks conditioning double timestep) (disobeyed : ¬ h.Obeyed) :
      Rounds s double conditioning (timestep :: rest) [h] 0 (.error h.refusal)
  | made {timestep : A.Elem} {rest : List A.Elem} {h : Heard A} {heard : List (Heard A)}
      {completed : Nat} {answer : Except Halt (Tensor A.Elem)}
      (asks : h.Asks conditioning double timestep) (obeyed : h.Obeyed)
      (later : Rounds s double conditioning rest heard completed answer) :
      Rounds s double conditioning (timestep :: rest) (h :: heard) (completed + 1) answer

namespace Rounds

variable {timesteps : List A.Elem} {heard : List (Heard A)} {completed : Nat}
  {answer : Except Halt (Tensor A.Elem)}

theorem completed_le (rounds : Rounds s double conditioning timesteps heard completed answer) :
    completed ≤ timesteps.length := by
  induction rounds with
  | done => exact Nat.le_refl 0
  | stopped => exact Nat.zero_le _
  | made _ _ _ ih => exact Nat.succ_le_succ ih

theorem heard_timesteps (rounds : Rounds s double conditioning timesteps heard completed answer) :
    heard.map (·.call.timestep) = timesteps.take (min (completed + 1) timesteps.length) := by
  induction rounds with
  | done => rfl
  | @stopped timestep rest h asks => simp [asks.timestep]
  | made asks _ _ ih =>
      rw [List.map_cons, ih, asks.timestep, List.length_cons, Nat.succ_min_succ,
        List.take_succ_cons]

theorem asks_of_mem (rounds : Rounds s double conditioning timesteps heard completed answer)
    {h : Heard A} (member : h ∈ heard) : ∃ timestep, h.Asks conditioning double timestep := by
  induction rounds with
  | done => cases member
  | stopped asks =>
      rw [List.mem_singleton.mp member]
      exact ⟨_, asks⟩
  | made asks _ _ ih =>
      rcases List.mem_cons.mp member with rfl | later
      · exact ⟨_, asks⟩
      · exact ih later

theorem obeyed_iff (rounds : Rounds s double conditioning timesteps heard completed answer)
    {i : Nat} {h : Heard A} (here : heard[i]? = some h) : h.Obeyed ↔ i < completed := by
  induction rounds generalizing i with
  | done => cases here
  | stopped _ disobeyed =>
      cases i with
      | zero =>
          cases here
          exact ⟨fun obeyed => absurd obeyed disobeyed, nofun⟩
      | succ i => cases here
  | made _ obeyed _ ih =>
      cases i with
      | zero =>
          cases here
          exact ⟨fun _ => Nat.succ_pos _, fun _ => obeyed⟩
      | succ i => exact (ih here).trans Nat.succ_lt_succ_iff.symm

theorem answer_of_all (rounds : Rounds s double conditioning timesteps heard completed answer)
    (all : completed = timesteps.length) : ∃ latents, answer = .ok latents ∧ latents.shape = s := by
  induction rounds with
  | done shape => exact ⟨_, rfl, shape⟩
  | stopped => cases all
  | made _ _ _ ih => exact ih (Nat.succ.inj all)

theorem answer_of_stop (rounds : Rounds s double conditioning timesteps heard completed answer)
    (early : completed < timesteps.length) :
    ∃ h, heard[completed]? = some h ∧ answer = .error h.refusal := by
  induction rounds with
  | done => cases early
  | stopped => exact ⟨_, rfl, rfl⟩
  | made _ _ _ ih => exact ih (Nat.lt_of_succ_lt_succ early)

end Rounds

/-- One round more in front of the rounds left. -/
theorem runOn_denoiseAll_ok {B : Backend A σ τ} {guidance : A.Elem}
    {conditioning latents next : τ} {before after : σ × Scheduler A τ}
    (ran : (denoise B guidance conditioning latents timestep).runOn before = (.ok next, after))
    (completed : Nat) :
    (denoiseAll B guidance conditioning (timestep :: rest) latents).runOn (before, completed) =
      (denoiseAll B guidance conditioning rest next).runOn (after, completed + 1) := by
  have first : (Action.onFirst (denoise B guidance conditioning latents timestep)).runOn
      (before, completed) = (.ok next, after, completed) := by
    change (let ran := (denoise B guidance conditioning latents timestep).runOn before
      (ran.1, ran.2, completed)) = _
    rw [ran]
  rw [denoiseAll, Action.runOn_bind_ok first]
  rfl

theorem runOn_denoiseAll_error {B : Backend A σ τ} {guidance : A.Elem}
    {conditioning latents : τ} {before after : σ × Scheduler A τ} {halt : Halt}
    (ran : (denoise B guidance conditioning latents timestep).runOn before = (.error halt, after))
    (completed : Nat) :
    (denoiseAll B guidance conditioning (timestep :: rest) latents).runOn (before, completed) =
      (.error halt, after, completed) := by
  have first : (Action.onFirst (denoise B guidance conditioning latents timestep)).runOn
      (before, completed) = (.error halt, after, completed) := by
    change (let ran := (denoise B guidance conditioning latents timestep).runOn before
      (ran.1, ran.2, completed)) = _
    rw [ran]
  rw [denoiseAll, Action.runOn_bind_error first]

theorem denoiseAll_overheard (network : Network A ν) (guidance : A.Elem)
    (doubles : s.Doubles double) (rows : double.head? = conditioning.shape.head?)
    {timesteps : List A.Elem} (ready : scheduler.Ready s timesteps) (shape : latents.shape = s)
    (state : ν) (heard : List (Heard A)) (before : Nat) :
    ∃ new completed answer after left, Rounds s double conditioning timesteps new completed answer ∧
      (denoiseAll (.eager (some network.overheard)) guidance conditioning timesteps latents).runOn
        (((state, heard), scheduler), before) =
          (answer, ((after, heard ++ new), left), before + completed) := by
  -- A round leaves a longer record behind, so what was heard before the rounds is arbitrary.
  induction timesteps generalizing scheduler latents state heard before with
  | nil => exact ⟨[], 0, .ok latents, state, scheduler, .done shape, by rw [List.append_nil]; rfl⟩
  | cons timestep rest ih =>
      obtain ⟨h, after, left, asks, outcome⟩ :=
        denoise_overheard network guidance ready doubles rows shape state heard
      rcases outcome with ⟨obeyed, leftReady, next, nextShape, ran⟩ | ⟨disobeyed, ran⟩
      · obtain ⟨new, completed, answer, last, final, rounds, continued⟩ :=
          ih leftReady nextShape after (heard ++ [h]) (before + 1)
        refine ⟨h :: new, completed + 1, answer, last, final, .made asks obeyed rounds, ?_⟩
        rw [runOn_denoiseAll_ok ran, continued, List.append_assoc, List.singleton_append,
          Nat.add_right_comm, Nat.add_assoc]
      · refine ⟨[h], 0, .error h.refusal, after, left, .stopped asks disobeyed, ?_⟩
        rw [runOn_denoiseAll_error ran, Nat.add_zero]

/-! ### The loop -/

theorem checkShapes_of_shapes {batch height width length embedding : Nat}
    (word : 2 * batch < Halt.wordLimit) :
    checkShapes [batch, InputShapes.latentChannels, height, width]
      [2 * batch, length, embedding] = .ok () := by
  unfold checkShapes
  dsimp only
  rw [if_neg (not_not_intro rfl), Halt.checked_eq_ok_iff.mpr ⟨word, rfl⟩, Halt.bind_ok, if_pos rfl]
  rfl

/-- Once its inputs are accepted, the loop starts with the latents scaled to the deviation that the
scheduler starts from. -/
theorem runOn_run_eager (network : Option (Network A ν)) (guidance : A.Elem)
    (planned : scheduler.timesteps ≠ [])
    (accepted : checkShapes latents.shape conditioning.shape = .ok ()) (state : ν) :
    (run (.eager network) guidance latents conditioning).runOn ((state, scheduler), 0) =
      (denoiseAll (.eager network) guidance conditioning scheduler.timesteps
        (latents.scale scheduler.initialDeviation)).runOn ((state, scheduler), 0) := by
  change (if scheduler.timesteps.isEmpty then Action.fail (.noTimesteps "(no timesteps set)")
    else do
      Action.ofExcept (checkShapes latents.shape conditioning.shape)
      let noisy ← Action.onFirst (Action.onFirst
        ((Backend.eager network).scale latents scheduler.initialDeviation))
      denoiseAll (.eager network) guidance conditioning scheduler.timesteps noisy :
    Action ((ν × Scheduler A (Tensor A.Elem)) × Nat) (Tensor A.Elem)).runOn
      ((state, scheduler), 0) = _
  rw [if_neg (by simpa using planned), accepted]
  rfl

theorem outcome_of_runOn {B : Backend A σ τ} {guidance : A.Elem} {latents conditioning : τ}
    {backend after : σ} {scheduler left : Scheduler A τ} {answer : Except Halt τ} {completed : Nat}
    (ran : (run B guidance latents conditioning).runOn ((backend, scheduler), 0) =
      (answer, (after, left), completed)) :
    outcome B guidance latents conditioning backend scheduler =
      ⟨answer, after, left, completed⟩ := by
  unfold outcome
  rw [ran]

/-- Latents whose double batch has no layout end the loop in its first round, before any call. -/
theorem outcome_without_layout (network : Option (Network A ν)) (guidance : A.Elem)
    (planned : scheduler.timesteps ≠ [])
    (accepted : checkShapes latents.shape conditioning.shape = .ok ())
    (stacked : Shape.stack? latents.shape latents.shape = some double)
    (large : spanLimit ≤ double.span) (state : ν) :
    let ended := outcome (.eager network) guidance latents conditioning state scheduler
    ended.answer = .error (.error .stackTooLarge) ∧ ended.backend = state ∧
      ended.completed = 0 := by
  let noisy := latents.scale scheduler.initialDeviation
  obtain ⟨timestep, rest, steps⟩ := List.exists_cons_of_ne_nil planned
  have refused : ((Backend.eager network).concat noisy noisy).runOn state =
      (.error (.error .stackTooLarge), state) := by
    rw [Backend.runOn_concat (a := noisy) (b := noisy) stacked,
      if_neg (Nat.not_lt_of_le large)]
  obtain ⟨left, failed⟩ := Action.of_threaded_error
    (x := denoise (.eager network) guidance conditioning noisy timestep) (r := scheduler)
    (s := state) (h := .error .stackTooLarge) (by
      rw [threaded_denoise, threaded_predictGuided, bind_assoc, Action.runOn_bind_error refused])
  have ran := runOn_run_eager network guidance planned accepted state
  rw [steps, runOn_denoiseAll_error failed] at ran
  rw [outcome_of_runOn ran]
  exact ⟨rfl, rfl, rfl⟩

/-! ### Visiting the timesteps of a pass -/

/-- What an event reports to the caller of a loop: how many steps are completed, and of how many. -/
def reported? : Event → Option (Nat × Nat)
  | .referenceStep step total => some (step, total)
  | _ => none

theorem reported_events (timesteps : List A.Elem) {completed : Nat}
    (within : completed ≤ timesteps.length) :
    (events timesteps completed fun step total => [.referenceStep step total]).filterMap reported? =
      (List.range completed).map fun k => (k + 1, timesteps.length) := by
  have counted : ((timesteps.take completed).zipIdx 1).map Prod.snd =
      (List.range completed).map (· + 1) := by
    rw [List.zipIdx_map_snd, List.length_take, Nat.min_eq_left within, List.range'_eq_map_range]
    exact List.map_congr_left fun k _ => Nat.add_comm 1 k
  calc (events timesteps completed fun step total =>
        [.referenceStep step total]).filterMap reported?
      = ((timesteps.take completed).zipIdx 1).flatMap fun visit => [(visit.2, timesteps.length)] :=
        List.filterMap_flatMap
    _ = (((timesteps.take completed).zipIdx 1).map Prod.snd).map (·, timesteps.length) := by
        rw [List.map_map, List.map_eq_flatMap]
        rfl
    _ = (List.range completed).map fun k => (k + 1, timesteps.length) := by
        rw [counted, List.map_map]
        rfl

/-- The loop went through timesteps in order, one call and one report each. It stopped at the first
answer that did not obey, if there was one. -/
structure Visits (timesteps : List A.Elem) (conditioning : Tensor A.Elem) (double s : Shape)
    (ended : Outcome A (ν × List (Heard A)) (Tensor A.Elem)) : Prop where
  completed_le : ended.completed ≤ timesteps.length
  calls : ended.backend.2.map (·.call.timestep) =
    timesteps.take (min (ended.completed + 1) timesteps.length)
  asked : ∀ h ∈ ended.backend.2,
    h.call.conditioning = conditioning ∧ h.call.sample.shape = double ∧ h.call.sample.Doubled
  obeyed : ∀ (i : Nat) (h : Heard A), ended.backend.2[i]? = some h →
    (h.Obeyed ↔ i < ended.completed)
  reports : (events timesteps ended.completed fun step total =>
      [.referenceStep step total]).filterMap reported? =
    (List.range ended.completed).map fun k => (k + 1, timesteps.length)
  finished : ended.completed = timesteps.length →
    ∃ result, ended.answer = .ok result ∧ result.shape = s
  stopped : ended.completed < timesteps.length →
    ∃ h, ended.backend.2[ended.completed]? = some h ∧ ended.answer = .error h.refusal

theorem Rounds.visits {timesteps : List A.Elem} {heard : List (Heard A)} {completed : Nat}
    {answer : Except Halt (Tensor A.Elem)} {state : ν}
    (rounds : Rounds s double conditioning timesteps heard completed answer)
    (left : Scheduler A (Tensor A.Elem)) :
    Visits timesteps conditioning double s ⟨answer, (state, heard), left, completed⟩ where
  completed_le := rounds.completed_le
  calls := rounds.heard_timesteps
  asked h member := by
    obtain ⟨_, asks⟩ := rounds.asks_of_mem member
    exact ⟨asks.conditioning, asks.shape, asks.doubled⟩
  obeyed _ _ := rounds.obeyed_iff
  reports := reported_events timesteps rounds.completed_le
  finished := rounds.answer_of_all
  stopped := rounds.answer_of_stop

/-- A loop on a planned pass goes through its timesteps, whatever the network does. Where latents
have a layout but their double has none, it ends before the first call. -/
theorem outcome_visits (counts : A.CountsAreNumbers) {id : SchedulerId}
    {config : ScheduleConfig A} {seed : UInt64} {steps : Nat}
    (planned : Scheduler.planned id config seed steps = .ok scheduler)
    {batch height width length embedding : Nat} (inhabited : 0 < batch)
    (latentShape : latents.shape = [batch, InputShapes.latentChannels, height, width])
    (conditioningShape : conditioning.shape = [2 * batch, length, embedding])
    (guidance : A.Elem) (network : Network A ν) (start : ν) :
    let ended := outcome (.eager (some network.overheard)) guidance latents conditioning
      (start, []) scheduler
    let double : Shape := [2 * batch, InputShapes.latentChannels, height, width]
    scheduler.timesteps.length = steps ∧
      (double.span < spanLimit →
        Visits scheduler.timesteps conditioning double latents.shape ended) ∧
      (spanLimit ≤ double.span → latents.shape.span < spanLimit →
        ended.answer = .error (.error .stackTooLarge) ∧ ended.backend.2 = [] ∧
          ended.completed = 0) := by
  intro ended double
  obtain ⟨positive, length_eq, ready⟩ :=
    Scheduler.ready_of_planned counts latents.shape planned
  have due : scheduler.timesteps ≠ [] := List.length_pos_iff.mp (length_eq ▸ positive)
  have stacked : Shape.stack? latents.shape latents.shape = some double :=
    latentShape ▸ Shape.stack?_self _ _
  have words : 2 * batch < Halt.wordLimit →
      checkShapes latents.shape conditioning.shape = .ok () := fun word => by
    rw [latentShape, conditioningShape, checkShapes_of_shapes word]
  -- Either layout bounds the rows, so they are counted in a word and the inputs are accepted.
  refine ⟨length_eq, fun fits => ?_, fun large room => ?_⟩
  · have rows : 2 * batch ≤ double.span := by
      rw [Shape.span_cons_of_ne_zero (by omega)]
      exact Nat.le_mul_of_pos_right _ (Shape.span_pos _)
    have accepted := words (Nat.lt_of_le_of_lt rows (fits.trans (by decide)))
    have doubles : latents.shape.Doubles double :=
      ⟨stacked, latentShape ▸ Shape.half?_double inhabited _, fits⟩
    have noisyShape : (latents.scale scheduler.initialDeviation).shape = latents.shape := rfl
    obtain ⟨heard, completed, answer, after, left, rounds, ran⟩ :=
      denoiseAll_overheard network guidance doubles (by rw [conditioningShape]; rfl) ready
        noisyShape start [] 0
    have whole := (runOn_run_eager (some network.overheard) guidance due accepted _).trans ran
    rw [Nat.zero_add, List.nil_append] at whole
    rw [show ended = _ from outcome_of_runOn whole]
    exact rounds.visits left
  · have rows : batch ≤ latents.shape.span := by
      rw [latentShape, Shape.span_cons_of_ne_zero inhabited.ne']
      exact Nat.le_mul_of_pos_right _ (Shape.span_pos _)
    have accepted := words (by
      have limit : spanLimit * 2 = Halt.wordLimit := by decide
      omega)
    obtain ⟨answer, backend, completed⟩ := outcome_without_layout (some network.overheard)
      guidance due accepted stacked large (start, [])
    exact ⟨answer, congrArg Prod.snd backend, completed⟩

/-- A pass of two steps with a network that fails at its second call. -/
theorem outcome_visits_failing :
    ∃ scheduler : Scheduler whole (Tensor Int),
      Scheduler.planned .lmsDiscrete noiseless 0 2 = .ok scheduler ∧
      let network : Network whole Nat := StandIn.network ⟨some 1, none⟩ fun sample _ _ => .ok sample
      let conditioning : Tensor Int := .fill [2, 77, 1] 0
      let ended := outcome (.eager (some network.overheard)) (2 : Int) (.fill [1, 4, 1, 1] 3)
        conditioning (0, []) scheduler
      ended.completed = 1 ∧
        Visits scheduler.timesteps conditioning [2, 4, 1, 1] [1, 4, 1, 1] ended := by
  have ends : (do
      let scheduler : Scheduler whole (Tensor Int) ← Scheduler.planned .lmsDiscrete noiseless 0 2
      let network : Network whole Nat :=
        StandIn.network ⟨some 1, none⟩ fun sample _ _ => .ok sample
      return (outcome (.eager (some network.overheard)) (2 : Int) (.fill [1, 4, 1, 1] 3)
        (.fill [2, 77, 1] 0) (0, []) scheduler).completed : Except Halt Nat).toOption = some 1 := by
    decide +kernel
  obtain ⟨scheduler, planned, completed⟩ :=
    Halt.bind_eq_ok_iff.mp (Halt.toOption_eq_some_iff.mp ends)
  refine ⟨scheduler, planned, Except.ok.inj completed, ?_⟩
  have latentShape : (Tensor.fill [1, 4, 1, 1] 3 : Tensor whole.Elem).shape = [1, 4, 1, 1] := rfl
  have conditioningShape : (Tensor.fill [2, 77, 1] 0 : Tensor whole.Elem).shape = [2 * 1, 77, 1] :=
    rfl
  exact (outcome_visits whole_countsAreNumbers planned Nat.one_pos latentShape conditioningShape
    (2 : Int) _ 0).2.1 (by decide)

/-- Empty latents of `2 ^ 60` rows, whose double has no layout: a network that answers every call as
it should is never asked. -/
theorem outcome_manyRows :
    ∃ scheduler : Scheduler whole (Tensor Int),
      Scheduler.planned .ddim noiseless 0 1 = .ok scheduler ∧
      let network : Network whole Unit := .ofFunction fun sample _ _ => .ok sample
      let latents : Tensor Int := .fill [2 ^ 60, InputShapes.latentChannels, 0, 1] 0
      let conditioning : Tensor Int := .fill [2 * 2 ^ 60, 0, 0] 0
      let ended := outcome (.eager (some network.overheard)) (2 : Int) latents conditioning
        ((), []) scheduler
      network.Obedient ∧ latents.shape.span < spanLimit ∧
        ended.answer = .error (.error .stackTooLarge) ∧
        ¬ Visits scheduler.timesteps conditioning
          [2 * 2 ^ 60, InputShapes.latentChannels, 0, 1] latents.shape ended := by
  have plans : (Scheduler.planned (τ := Tensor Int) .ddim noiseless 0 1).toOption.isSome := by
    decide +kernel
  obtain ⟨scheduler, found⟩ := Option.isSome_iff_exists.mp plans
  have planned := Halt.toOption_eq_some_iff.mp found
  obtain ⟨-, length, -⟩ := Scheduler.ready_of_planned whole_countsAreNumbers [] planned
  have due : scheduler.timesteps ≠ [] := List.length_pos_iff.mp (length ▸ Nat.one_pos)
  refine ⟨scheduler, planned, fun sample _ _ _ => ⟨sample, (), rfl, rfl⟩, by decide, ?_⟩
  let latents : Tensor whole.Elem := .fill [2 ^ 60, InputShapes.latentChannels, 0, 1] 0
  let conditioning : Tensor whole.Elem := .fill [2 * 2 ^ 60, 0, 0] 0
  have shapes : checkShapes latents.shape conditioning.shape = .ok () :=
    checkShapes_of_shapes (by decide)
  have stacked : Shape.stack? latents.shape latents.shape =
      some [2 * 2 ^ 60, InputShapes.latentChannels, 0, 1] := Shape.stack?_self _ _
  obtain ⟨answer, backend, completed⟩ := outcome_without_layout
    (some (Network.ofFunction (A := whole) fun sample _ _ => .ok sample).overheard) (2 : Int) due
    shapes stacked (by decide) ((), [])
  refine ⟨answer, fun visits => ?_⟩
  have calls := congrArg List.length visits.calls
  rw [backend, completed, List.length_take, length] at calls
  cases calls

end Diffusion.Sampling
