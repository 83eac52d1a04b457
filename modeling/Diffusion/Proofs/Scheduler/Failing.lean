import Diffusion.Proofs.Backend.Eager
import Diffusion.Proofs.Scheduler.Replanning

/-!
Steps that fail, and what comes after them.

A step changes a scheduler in up to three ways: its place is found, a tensor is remembered, and the
place or the count moves on. A step that fails leaves out the last one. A failed step that brought
nothing to remember is noticed by nobody. The pseudo numerical method remembers every output before
it is tried, so a bad one makes the steps after it fail as well, until there have been enough of
them to replace it. Main statements: `left_of_step` and `session_failed`.
-/

namespace Diffusion

variable {A : Arithmetic} {σ τ ν : Type}

namespace SigmaTrack

/-- The pass after its place was looked for. -/
def placedAt (s : SigmaTrack A) (timestep : A.Elem) : SigmaTrack A :=
  match s.located timestep with
  | .ok (_, placed) => placed
  | .error _ => s

variable {s placed : SigmaTrack A} {timestep : A.Elem} {i : Nat}

theorem placedAt_of_located (located : s.located timestep = .ok (i, placed)) :
    s.placedAt timestep = placed := by
  rw [placedAt, located]

theorem placedAt_of_unlocated {h : Halt} (unlocated : s.located timestep = .error h) :
    s.placedAt timestep = s := by
  rw [placedAt, unlocated]

theorem located_placedAt (s : SigmaTrack A) (timestep : A.Elem) :
    (s.placedAt timestep).located timestep = s.located timestep := by
  cases located : s.located timestep with
  | error h => rw [placedAt_of_unlocated located, located]
  | ok found =>
      obtain ⟨i, placed⟩ := found
      rw [placedAt_of_located located, eq_placed located]
      rfl

theorem runOn_stepBy_placedAt (advance : SigmaTrack A → Nat → Action σ τ) (s : SigmaTrack A)
    (timestep : A.Elem) (w : σ) :
    (stepBy advance timestep).runOn (w, s.placedAt timestep) =
      (stepBy advance timestep).runOn (w, s) := by
  rw [runOn_stepBy, runOn_stepBy, located_placedAt]
  cases located : s.located timestep with
  | error h => rw [placedAt_of_unlocated located]
  | ok found => rfl

theorem runOn_scaleInput_placedAt (B : Backend A σ τ) (s : SigmaTrack A) (sample : τ)
    (timestep : A.Elem) (w : σ) :
    (scaleInput B sample timestep).runOn (w, s.placedAt timestep) =
      (scaleInput B sample timestep).runOn (w, s) := by
  rw [runOn_scaleInput, runOn_scaleInput, located_placedAt]
  cases located : s.located timestep with
  | error h => rw [placedAt_of_unlocated located]
  | ok found => rfl

theorem left_of_stepBy {advance : SigmaTrack A → Nat → Action σ τ} {left : SigmaTrack A} {h : Halt}
    {w w' : σ} (failed : (stepBy advance timestep).runOn (w, s) = (.error h, w', left)) :
    left = s.placedAt timestep := by
  rw [runOn_stepBy] at failed
  cases located : s.located timestep with
  | error h =>
      rw [located] at failed
      cases failed
      exact (placedAt_of_unlocated located).symm
  | ok found =>
      obtain ⟨i, placed⟩ := found
      simp only [located] at failed
      rcases ran : (advance placed i).runOn w with ⟨_ | _, _⟩ <;> rw [ran] at failed <;>
        cases failed
      exact (placedAt_of_located located).symm

/-- The derivative that a step computes, unless it fails before. -/
def derivativeAt? (B : Backend A σ τ) (s : SigmaTrack A) (output : τ) (timestep : A.Elem)
    (sample : τ) (w : σ) : Option τ := do
  let (i, placed) ← (s.located timestep).toOption
  let sigma ← (placed.sigma i).toOption
  ((placed.derivative B sigma output sample).runOn w).1.toOption

end SigmaTrack

namespace LinearMultistep

variable (B : Backend A σ τ) (output sample : τ) (timestep : A.Elem)

theorem runOn_step_placedAt (s : LinearMultistep A τ) (w : σ) :
    (step B output timestep sample).runOn (w, { s with track := s.track.placedAt timestep }) =
      (step B output timestep sample).runOn (w, s) := by
  rw [runOn_step, runOn_step, SigmaTrack.located_placedAt]
  cases located : s.track.located timestep with
  | error h => rw [SigmaTrack.placedAt_of_unlocated located]
  | ok found => rfl

theorem left_of_step {s left : LinearMultistep A τ} {w w' : σ} {h : Halt}
    (failed : (step B output timestep sample).runOn (w, s) = (.error h, w', left)) :
    let placed := { s with track := s.track.placedAt timestep }
    left = (s.track.derivativeAt? B output timestep sample w).elim placed placed.remember := by
  intro placed
  rw [runOn_step] at failed
  unfold SigmaTrack.derivativeAt?
  cases located : s.track.located timestep with
  | error h =>
      simp only [located] at failed
      cases failed
      exact (congrArg (fun track => { s with track })
        (SigmaTrack.placedAt_of_unlocated located)).symm
  | ok found =>
      obtain ⟨i, track⟩ := found
      have same : placed = { s with track } :=
        congrArg (fun track => { s with track }) (SigmaTrack.placedAt_of_located located)
      rw [same]
      simp only [located] at failed
      cases found : track.sigma i with
      | error h =>
          simp only [found] at failed
          cases failed
          simp [found, Except.toOption]
      | ok sigma =>
          simp only [found] at failed
          rcases ran : (track.derivative B sigma output sample).runOn w with ⟨_ | derivative, w⟩
          · simp only [ran] at failed
            cases failed
            simp [found, ran, Except.toOption]
          · simp only [ran] at failed
            rcases last : ((remember { s with track } derivative).advance B i sample).runOn w with
              ⟨_ | _, _⟩ <;> rw [last] at failed <;> cases failed
            simp [found, ran, Except.toOption]

end LinearMultistep

namespace Scheduler

def placedAt (s : Scheduler A τ) (timestep : A.Elem) : Scheduler A τ :=
  match s with
  | pndm s => pndm s
  | ddim s => ddim s
  | ddpm s => ddpm s
  | euler s => euler ⟨s.track.placedAt timestep⟩
  | eulerAncestral s => eulerAncestral { s with track := s.track.placedAt timestep }
  | linearMultistep s => linearMultistep { s with track := s.track.placedAt timestep }

/-- The scheduler with other tensors remembered, if its kind remembers any. -/
def remembering (s : Scheduler A τ) (tensors : List τ) : Scheduler A τ :=
  match s with
  | pndm s => pndm { s with outputs := tensors }
  | linearMultistep s => linearMultistep { s with derivatives := tensors }
  | s => s

/-- The tensor that a step brings to be remembered, before it goes on to the sums. -/
def newest? (B : Backend A σ τ) (s : Scheduler A τ) (output : τ) (timestep : A.Elem) (sample : τ)
    (w : σ) : Option τ :=
  match s with
  | pndm _ => some output
  | linearMultistep s => s.track.derivativeAt? B output timestep sample w
  | ddim _ | ddpm _ | euler _ | eulerAncestral _ => none

variable {s left : Scheduler A τ} {B : Backend A σ τ} {output sample : τ} {timestep : A.Elem}
  {w w' : σ} {h : Halt}

theorem of_inside {S α : Type} (wrap : S → Scheduler A τ) (x : Action (σ × S) α) {part : S}
    {answer : Except Halt α} (ended : inside wrap x w part = (answer, w', left)) :
    ∃ rest, x.runOn (w, part) = (answer, w', rest) ∧ left = wrap rest := by
  rcases ran : x.runOn (w, part) with ⟨answer, after, rest⟩
  rw [inside, ran] at ended
  cases ended
  exact ⟨rest, rfl, rfl⟩

/-- What a failed step leaves: the place is found, and the newest tensor is remembered if there was
one by then. -/
theorem left_of_step
    (failed : (step B output timestep sample).runOn (w, s) = (.error h, w', left)) :
    left = (s.newest? B output timestep sample w).elim (s.placedAt timestep) fun newest =>
      (s.placedAt timestep).remembering ((newest :: s.remembered).take 4) := by
  cases s with
  | pndm s =>
      obtain ⟨rest, ran, rfl⟩ := of_inside pndm (Pndm.step B output timestep sample) failed
      exact congrArg (fun ended => pndm ended.2.2) ran.symm
  | ddim s =>
      obtain ⟨rest, ran, rfl⟩ := of_inside ddim (Ddim.step B output timestep sample) failed
      exact congrArg (fun ended => ddim ended.2.2) ran.symm
  | ddpm s =>
      obtain ⟨rest, ran, rfl⟩ := of_inside ddpm (Ddpm.step B output timestep sample) failed
      rw [Ddpm.runOn_step] at ran
      rcases advanced : (s.advance B output timestep sample).runOn w with ⟨_ | _, _⟩ <;>
        rw [advanced] at ran <;> cases ran
      rfl
  | euler s =>
      obtain ⟨rest, ran, rfl⟩ := of_inside (fun track => euler ⟨track⟩)
        (Euler.step B output timestep sample) failed
      exact congrArg (fun track => euler ⟨track⟩) (SigmaTrack.left_of_stepBy ran)
  | eulerAncestral s =>
      obtain ⟨rest, ran, rfl⟩ := of_inside (fun track => eulerAncestral { s with track })
        (EulerAncestral.step B s.seed output timestep sample) failed
      exact congrArg (fun track => eulerAncestral { s with track }) (SigmaTrack.left_of_stepBy ran)
  | linearMultistep s =>
      obtain ⟨rest, ran, rfl⟩ := of_inside linearMultistep
        (LinearMultistep.step B output timestep sample) failed
      rw [LinearMultistep.left_of_step B output sample timestep ran]
      change _ = (s.track.derivativeAt? B output timestep sample w).elim _ _
      cases s.track.derivativeAt? B output timestep sample w <;> rfl

/-! ### Calls after a failed step -/

theorem inside_congr {S α : Type} (wrap : S → Scheduler A τ) {x : Action (σ × S) α} {part part' : S}
    (same : x.runOn (w, part) = x.runOn (w, part')) :
    inside wrap x w part = inside wrap x w part' := by
  rw [inside, inside, same]

theorem runOn_scaleInput_placedAt (s : Scheduler A τ) :
    (scaleInput B sample timestep).runOn (w, s.placedAt timestep) =
      (scaleInput B sample timestep).runOn (w, s) := by
  cases s with
  | pndm | ddim | ddpm => rfl
  | euler s =>
      exact inside_congr (fun track => euler ⟨track⟩)
        (SigmaTrack.runOn_scaleInput_placedAt B s.track sample timestep w)
  | eulerAncestral s =>
      exact inside_congr (fun track => eulerAncestral { s with track })
        (SigmaTrack.runOn_scaleInput_placedAt B s.track sample timestep w)
  | linearMultistep s =>
      exact congrArg
        (fun ended => (ended.1, ended.2.1, linearMultistep { s with track := ended.2.2 }))
        (SigmaTrack.runOn_scaleInput_placedAt B s.track sample timestep w)

theorem runOn_step_placedAt (s : Scheduler A τ) :
    (step B output timestep sample).runOn (w, s.placedAt timestep) =
      (step B output timestep sample).runOn (w, s) := by
  cases s with
  | pndm | ddim | ddpm => rfl
  | euler s =>
      exact inside_congr (fun track => euler ⟨track⟩) (SigmaTrack.runOn_stepBy_placedAt
        (fun track i => Euler.advance B track i output sample) s.track timestep w)
  | eulerAncestral s =>
      exact inside_congr (fun track => eulerAncestral { s with track })
        (SigmaTrack.runOn_stepBy_placedAt
          (fun track i => EulerAncestral.advance B s.seed track i output sample) s.track timestep w)
  | linearMultistep s =>
      exact inside_congr linearMultistep
        (LinearMultistep.runOn_step_placedAt B output sample timestep s w)

/-- The timestep at which a call looks for the place of the pass. -/
def Call.timestep? : Call A σ τ → Option A.Elem
  | scaleInput _ _ timestep | step _ _ timestep _ => some timestep
  | plan _ | run .. => none

theorem Call.make_placedAt {call : Call A σ τ} (made : call.timestep? = some timestep)
    (s : Scheduler A τ) (w : σ) : call.make (w, s.placedAt timestep) = call.make (w, s) := by
  cases call with
  | plan | run => cases made
  | scaleInput B sample =>
      cases made
      simp only [Call.make, runOn_scaleInput_placedAt]
  | step B output _ sample =>
      cases made
      simp only [Call.make, runOn_step_placedAt]

/-- The first call of a session, if there is one, is made at a timestep. -/
def ResumesAt (timestep : A.Elem) (calls : List (Call A σ τ)) : Prop :=
  ∀ call ∈ calls.head?, call.timestep? = some timestep

theorem session_placedAt {calls : List (Call A σ τ)} (resumes : ResumesAt timestep calls)
    (s : Scheduler A τ) (w : σ) :
    (session calls (w, s.placedAt timestep)).1 = (session calls (w, s)).1 := by
  cases calls with
  | nil => rfl
  | cons call rest => simp only [session, Call.make_placedAt (resumes call rfl)]

/-- The scheduler with one more tensor remembered, if there is one. -/
def recalling (s : Scheduler A τ) (newest? : Option τ) : Scheduler A τ :=
  newest?.elim s fun newest => s.remembering ((newest :: s.remembered).take Pndm.memory)

theorem recalling_placedAt (s : Scheduler A τ) (timestep : A.Elem) (newest? : Option τ) :
    (s.placedAt timestep).recalling newest? = (s.recalling newest?).placedAt timestep := by
  cases s <;> cases newest? <;> rfl

end Scheduler

/-! ### A bad output -/

/-- No sum that starts with an output and has the bad one among its other terms succeeds. -/
def Backend.Clashes (B : Backend A σ τ) (bad output : τ) : Prop :=
  ∀ (c : A.Elem) (terms : List (A.Elem × τ)), (∃ term ∈ terms, term.2 = bad) →
    ∀ w, ∃ h w', (B.weightedSum ((c, output) :: terms)).runOn w = (.error h, w')

theorem Backend.clashes_eager (network : Option (Network A ν)) {bad output : Tensor A.Elem}
    (differ : bad.shape ≠ output.shape) : (Backend.eager network).Clashes bad output := by
  rintro c terms ⟨term, member, rfl⟩ w
  obtain ⟨h, failed⟩ : ∃ h, ((eager network).weightedSum ((c, output) :: terms)).runOn w =
      (.error h, w) := runOn_weightedSum_mismatched ⟨term, member, differ⟩ w
  exact ⟨h, w, failed⟩

namespace Pndm

variable {B : Backend A σ τ} {bad newest : τ} {older : List τ} {i : Nat}

theorem runOn_combined_clashing (clashes : B.Clashes bad newest) (spoiled : older[i]? = some bad)
    (early : i + 1 < memory) (w : σ) :
    ∃ h w', (combined B (newest :: older)).runOn w = (.error h, w') := by
  have within : i < older.length := (List.getElem?_eq_some_iff.mp spoiled).1
  have summed : ∀ (weight : A.Elem) (weights : List A.Elem), i < weights.length →
      ∃ h w', (B.weightedSum ((weight, newest) :: weights.zip older)).runOn w = (.error h, w') := by
    intro weight weights enough
    refine clashes weight _ ⟨(weights[i], bad), ?_, rfl⟩ w
    have paired : (weights.zip older)[i]? = some (weights[i], bad) :=
      List.getElem?_zip_eq_some.mpr ⟨List.getElem?_eq_getElem enough, spoiled⟩
    exact List.mem_of_getElem? paired
  unfold memory at early
  match older with
  | [] => cases within
  | [_] => exact summed (3 / 2) [-1 / 2] within
  | [_, _] => exact summed (23 / 12) [-16 / 12, 5 / 12] within
  | _ :: _ :: _ :: _ =>
      exact summed (55 / 24) [-59 / 24, 37 / 24, -9 / 24] (Nat.lt_of_succ_lt_succ early)

/-- Where an older output that still counts clashes with the newest one, nothing is advanced. -/
theorem runOn_advance_spoiled {s : Pndm A τ} (spoiled : s.outputs[i]? = some bad)
    (early : i + 1 < memory) (clashes : B.Clashes bad newest) (timestep : A.Elem) (sample : τ)
    (w : σ) :
    ∃ h w', ((s.remember newest).advance B timestep sample).runOn w = (.error h, w') := by
  obtain ⟨older, outputs, kept⟩ : ∃ older, (s.remember newest).outputs = newest :: older ∧
      older[i]? = some bad := by
    refine ⟨s.outputs.take (memory - 1), rfl, ?_⟩
    rw [List.getElem?_take_of_lt (by omega), spoiled]
  obtain ⟨h, w', combined⟩ := runOn_combined_clashing clashes kept early w
  rw [advance, Action.runOn_ofExcept_bind]
  cases (s.remember newest).line.next (A.truncate timestep) with
  | error h => exact ⟨h, w, rfl⟩
  | ok next => exact ⟨h, w', Action.runOn_bind_error (outputs ▸ combined)⟩

end Pndm

namespace Scheduler

/-- A step whose output cannot be summed with a bad one. -/
def Call.ClashesWith (bad : τ) (call : Call A σ τ) : Prop :=
  ∃ B output timestep sample, call = .step B output timestep sample ∧ B.Clashes bad output

/-- However a step of the pseudo numerical method ends, it remembers its output. -/
theorem runOn_step_pndm (B : Backend A σ τ) (output : τ) (timestep : A.Elem) (sample : τ)
    (s : Pndm A τ) (w : σ) :
    (step B output timestep sample).runOn (w, pndm s) =
      (let ended := ((s.remember output).advance B timestep sample).runOn w
       (ended.1, ended.2, pndm (s.remember output))) := rfl

/-- Once the pseudo numerical method remembers a bad output, every step that clashes with it fails
until it has been replaced. After the step that brought it these are the next three. -/
theorem session_spoiled {s : Pndm A τ} {bad : τ} {i : Nat} (spoiled : s.outputs[i]? = some bad)
    (calls : List (Call A σ τ)) (few : i + calls.length < Pndm.memory)
    (clash : ∀ call ∈ calls, call.ClashesWith bad) (w : σ) :
    ∀ reply ∈ (session calls (w, pndm s)).1, ∃ h, reply.answer = .error h := by
  induction calls generalizing s i w with
  | nil => nofun
  | cons call rest ih =>
      obtain ⟨here, later⟩ := List.forall_mem_cons.mp clash
      obtain ⟨B, output, timestep, sample, rfl, clashes⟩ := here
      rw [List.length_cons] at few
      have early : i + 1 < Pndm.memory := by omega
      obtain ⟨h, w', failed⟩ := Pndm.runOn_advance_spoiled spoiled early clashes timestep sample w
      have shifted : (s.remember output).outputs[i + 1]? = some bad := by
        rw [Pndm.remember, List.getElem?_take_of_lt early, List.getElem?_cons_succ, spoiled]
      simp only [session, Call.make, runOn_step_pndm, failed]
      exact List.forall_mem_cons.mpr ⟨⟨h, rfl⟩, ih shifted (by omega) later w'⟩

def Call.IsStep (call : Call A σ τ) : Prop :=
  ∃ B output timestep sample, call = .step B output timestep sample

/-- Two pasts that agree in their newest outputs are the same after enough steps. -/
theorem session_forgets {s s' : Pndm A τ} (k : Nat) (line : s.line = s'.line)
    (agree : s.outputs.take k = s'.outputs.take k)
    (short : 0 < k → s.outputs.length ≤ Pndm.memory ∧ s'.outputs.length ≤ Pndm.memory)
    (calls : List (Call A σ τ)) (steps : ∀ call ∈ calls, call.IsStep)
    (enough : Pndm.memory ≤ k + calls.length) (w w' : σ) :
    (session calls (w, pndm s)).2.2 = (session calls (w', pndm s')).2.2 := by
  induction calls generalizing s s' k w w' with
  | nil =>
      rw [List.length_nil, Nat.add_zero] at enough
      obtain ⟨shortHere, shortThere⟩ := short (Nat.lt_of_lt_of_le (by decide) enough)
      rw [List.take_of_length_le (shortHere.trans enough),
        List.take_of_length_le (shortThere.trans enough)] at agree
      cases s
      cases s'
      cases line
      cases agree
      rfl
  | cons call rest ih =>
      obtain ⟨⟨B, output, timestep, sample, rfl⟩, later⟩ := List.forall_mem_cons.mp steps
      rw [List.length_cons] at enough
      have least : min (k + 1) Pndm.memory = min 3 k + 1 := by
        rw [Pndm.memory]
        omega
      have newest (s : Pndm A τ) : (s.remember output).outputs.take (k + 1) =
          output :: (s.outputs.take k).take 3 := by
        rw [Pndm.remember, List.take_take, least, List.take_succ_cons, List.take_take]
      have kept (s : Pndm A τ) : (s.remember output).outputs.length ≤ Pndm.memory :=
        List.length_take_le _ _
      have sameLine : (s.remember output).line = (s'.remember output).line := line
      simp only [session, Call.make, runOn_step_pndm]
      refine ih (k + 1) sameLine ?_ (fun _ => ⟨kept s, kept s'⟩) later (by omega) _ _
      rw [newest, newest, agree]

/-- A step that fails leaves a scheduler in which its place is found and the tensor that it brought,
if there was one by then, is remembered. If the place was known before, or is looked for at the same
timestep again, then later calls are answered as after remembering that tensor, and without one as
if there had been no step. The pseudo numerical method always remembers the output, so the next
three steps fail with any output that clashes with it; after four steps it is forgotten. -/
theorem session_failed
    (failed : (step B output timestep sample).runOn (w, s) = (.error h, w', left)) :
    let newest? := s.newest? B output timestep sample w
    left = (s.placedAt timestep).recalling newest? ∧
      (∀ {σ' : Type} (later : List (Call A σ' τ)) (w : σ'),
        s.placedAt timestep = s ∨ ResumesAt timestep later →
          (session later (w, left)).1 = (session later (w, s.recalling newest?)).1) ∧
      (s.id = .pndm → ∀ {σ' : Type} (later : List (Call A σ' τ)) (w : σ'),
        (later.length < Pndm.memory → (∀ call ∈ later, call.ClashesWith output) →
          ∀ reply ∈ (session later (w, left)).1, ∃ h, reply.answer = .error h) ∧
        (Pndm.memory ≤ later.length → (∀ call ∈ later, call.IsStep) →
          (session later (w, left)).2.2 = (session later (w, s)).2.2)) := by
  intro newest?
  have leaves : left = (s.placedAt timestep).recalling newest? := by
    have same : (s.placedAt timestep).remembered = s.remembered := by cases s <;> rfl
    rw [left_of_step failed, recalling, same]
    rfl
  refine ⟨leaves, fun later w resumes => ?_, fun kind σ' later w => ?_⟩
  · rw [leaves]
    rcases resumes with known | resumes
    · rw [known]
    · rw [recalling_placedAt]
      exact session_placedAt resumes (s.recalling newest?) w
  · cases s with
    | pndm s =>
        have remembers : left = pndm (s.remember output) := leaves
        rw [remembers]
        refine ⟨fun few clash => ?_, fun enough steps => ?_⟩
        · exact session_spoiled (i := 0) rfl later (by omega) clash w
        · have line : (s.remember output).line = s.line := rfl
          exact session_forgets 0 line rfl nofun later steps (by omega) w w
    | ddim | ddpm | euler | eulerAncestral | linearMultistep => cases kind

/-- Two methods in the middle of a pass at which an output of another shape fails. To the linear
multistep method it brings no derivative. -/
theorem exists_failed_halfway : ∀ id ∈ [SchedulerId.pndm, .lmsDiscrete],
    ∃ (new left : Scheduler whole (Tensor Int)) (h : Halt), create id noiseless 0 = .ok new ∧
      let s := (session halfway ((), new)).2.2
      (step (Backend.eager none) (.fill [2] 1) 0 (.fill [1] 3)).runOn ((), s) =
        (.error h, (), left) ∧ s.id = id ∧
      (id = .lmsDiscrete →
        s.newest? (Backend.eager none) (.fill [2] 1) 0 (.fill [1] 3) () = none) := by
  have runs : ∀ id ∈ [SchedulerId.pndm, .lmsDiscrete],
      (create id noiseless 0).toOption.map (fun new =>
        let s : Scheduler whole (Tensor Int) := (session halfway ((), new)).2.2
        let ran := (step (Backend.eager none) (.fill [2] 1) 0 (.fill [1] 3)).runOn ((), s)
        (ran.1.toOption.isNone, s.id,
          (s.newest? (Backend.eager none) (.fill [2] 1) 0 (.fill [1] 3) ()).isNone)) =
        some (true, id, decide (id = .lmsDiscrete)) := by
    decide +kernel
  intro id among
  obtain ⟨new, created, result⟩ := Option.map_eq_some_iff.mp (runs id among)
  obtain ⟨unanswered, result⟩ := Prod.mk.inj result
  obtain ⟨kind, forgettable⟩ := Prod.mk.inj result
  rcases ran : (step (Backend.eager none) (.fill [2] 1) 0 (.fill [1] 3)).runOn
    ((), (session halfway ((), new)).2.2) with ⟨h | _, ⟨⟩, left⟩
  · exact ⟨new, left, h, Halt.toOption_eq_some_iff.mp created, ran, kind, fun multistep =>
      Option.isNone_iff_eq_none.mp (forgettable.trans (decide_eq_true multistep))⟩
  · rw [ran] at unanswered
    cases unanswered

/-- A second try of the linear multistep method is answered as if it were the first. The pseudo
numerical method remembers the output, and three more tries fail. -/
theorem session_failed_halfway :
    (∃ (new left : Scheduler whole (Tensor Int)) (h : Halt),
      create .lmsDiscrete noiseless 0 = .ok new ∧
      (step (Backend.eager none) (.fill [2] 1) 0 (.fill [1] 3)).runOn
        ((), (session halfway ((), new)).2.2) = (.error h, (), left) ∧
      ∀ later : List (Call whole Unit (Tensor Int)),
        (session (filledStep 0 [1] [1] :: later) ((), left)).1 =
          (session (filledStep 0 [1] [1] :: later) ((), (session halfway ((), new)).2.2)).1) ∧
    ∃ (new left : Scheduler whole (Tensor Int)) (h : Halt),
      create .pndm noiseless 0 = .ok new ∧
      (step (Backend.eager none) (.fill [2] 1) 0 (.fill [1] 3)).runOn
        ((), (session halfway ((), new)).2.2) = (.error h, (), left) ∧
      ∀ reply ∈ (session (List.replicate 3 (filledStep 0 [1] [1])) ((), left)).1,
        ∃ h, reply.answer = .error h := by
  constructor
  · obtain ⟨new, left, h, created, ran, -, forgettable⟩ :=
      exists_failed_halfway .lmsDiscrete (by simp)
    obtain ⟨-, undisturbed, -⟩ := session_failed ran
    refine ⟨new, left, h, created, ran, fun later => ?_⟩
    have same := undisturbed (filledStep 0 [1] [1] :: later) ()
      (.inr fun _ first => Option.some.inj first ▸ rfl)
    rw [forgettable rfl] at same
    exact same
  · obtain ⟨new, left, h, created, ran, kind, -⟩ := exists_failed_halfway .pndm (by simp)
    obtain ⟨-, -, spoiled⟩ := session_failed ran
    refine ⟨new, left, h, created, ran,
      (spoiled kind _ ()).1 (by decide) fun call tried => ?_⟩
    rw [List.eq_of_mem_replicate tried]
    exact ⟨_, _, _, _, rfl, Backend.clashes_eager none (by decide)⟩

/-- The pseudo numerical method before its first step, and an output of another shape: a second try
fails, which would have been answered. -/
theorem session_retried_pndm :
    (create .pndm noiseless 0).toOption.map (fun new =>
      let planned : Unit × Scheduler whole (Tensor Int) := (session [.plan 2] ((), new)).2
      let failed := session [filledStep 2 [2] [1]] planned
      let retry := [filledStep 2 [1] [1]]
      (answered failed.1, answered (session retry failed.2).1,
        answered (session retry planned).1)) =
    some ([false], [false], [true]) := by
  decide +kernel

/-- Euler's method before its first step: a step that fails has found the place, and keeps it. So a
timestep off the schedule is answered, which is refused without the failed step. -/
example :
    (create .eulerDiscrete noiseless 0).toOption.map (fun new =>
      let planned : Unit × Scheduler whole (Tensor Int) := (session [.plan 2] ((), new)).2
      let failed := session [filledStep 2 [2] [1]] planned
      let later := [filledStep 7 [1] [1]]
      (answered failed.1, answered (session later failed.2).1,
        answered (session later planned).1)) =
    some ([false], [true], [false]) := by
  decide +kernel

end Scheduler

end Diffusion
