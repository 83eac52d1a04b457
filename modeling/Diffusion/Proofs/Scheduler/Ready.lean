import Diffusion.Proofs.Backend.Contract
import Diffusion.Proofs.Backend.Elementwise
import Diffusion.Proofs.Scheduler.Steps

/-!
Schedulers in the middle of a pass.

A scheduler is ready for timesteps when it can visit them one after the other: none of them makes
it look outside its tables, and what it remembers fits the samples. Main statements:
`ReadyFor.scaleInput` and `meets_step`, by which over every backend that keeps to a contract neither
call fails at the timestep that is due, and the step leaves a scheduler that is ready for the
timesteps after it. `Ready.scaleInput` and `Ready.step` say the same of tensors, and `drawn_step` is
for schedulers in any state, over contracts that forgive failures.
-/

namespace Diffusion

variable {A : Arithmetic} {σ τ ν : Type} {timestep : A.Elem} {rest : List A.Elem}

/-- A step back from every timestep left is a signed word. -/
def Timeline.Ready (line : Timeline A) (rest : List A.Elem) : Prop :=
  ∀ timestep ∈ rest, ∃ earlier, line.next (A.truncate timestep) = .ok earlier

/-- Whether it is the turn of a timestep: that of the first one left, and of any if none is left. -/
def Due (timestep : A.Elem) (rest : List A.Elem) : Prop := ∀ first ∈ rest.head?, timestep = first

theorem due_head (timestep : A.Elem) (rest : List A.Elem) : Due timestep (timestep :: rest) :=
  fun _ head => Option.some.inj head

/-- The sigma at a place is that of the first timestep left, and the last one if none is left. -/
structure SigmaTrack.Ready (s : SigmaTrack A) (i : Nat) (rest : List A.Elem) : Prop where
  size : i + rest.length + 1 = s.sigmas.size
  located : ∀ timestep, Due timestep rest →
    s.located timestep = .ok (i, { s with place := some i })

namespace Scheduler

/-- What a scheduler of each kind needs for the timesteps left of its pass. -/
inductive ReadyFor (fits : τ → Prop) : List A.Elem → Scheduler A τ → Prop where
  | pndm {rest : List A.Elem} {s : Pndm A τ} (line : s.line.Ready rest)
      (outputs : ∀ output ∈ s.outputs, fits output) : ReadyFor fits rest (.pndm s)
  | ddim {rest : List A.Elem} {s : Ddim A} (line : s.line.Ready rest) :
      ReadyFor fits rest (.ddim s)
  | ddpm {rest : List A.Elem} {s : Ddpm A} (line : s.line.Ready rest) :
      ReadyFor fits rest (.ddpm s)
  | euler {rest : List A.Elem} {s : Euler A} {i : Nat} (track : s.track.Ready i rest) :
      ReadyFor fits rest (.euler s)
  | eulerAncestral {rest : List A.Elem} {s : EulerAncestral A} {i : Nat}
      (track : s.track.Ready i rest) : ReadyFor fits rest (.eulerAncestral s)
  | linearMultistep {rest : List A.Elem} {s : LinearMultistep A τ} {i : Nat}
      (track : s.track.Ready i rest) (derivatives : ∀ derivative ∈ s.derivatives, fits derivative) :
      ReadyFor fits rest (.linearMultistep s)

/-- Over tensors of one shape. -/
abbrev Ready (shape : Shape) (rest : List A.Elem) (scheduler : Scheduler A (Tensor A.Elem)) :
    Prop :=
  ReadyFor (·.shape = shape) rest scheduler

theorem ReadyFor.imp {fits fits' : τ → Prop} {scheduler : Scheduler A τ}
    (ready : ReadyFor fits rest scheduler) (weaker : ∀ x, fits x → fits' x) :
    ReadyFor fits' rest scheduler := by
  cases ready with
  | pndm line outputs => exact .pndm line fun x member => weaker x (outputs x member)
  | ddim line => exact .ddim line
  | ddpm line => exact .ddpm line
  | euler track => exact .euler track
  | eulerAncestral track => exact .eulerAncestral track
  | linearMultistep track derivatives =>
      exact .linearMultistep track fun x member => weaker x (derivatives x member)

end Scheduler

/-! ### Tracks -/

theorem Timeline.Ready.tail {line : Timeline A} (ready : line.Ready (timestep :: rest)) :
    line.Ready rest :=
  fun later member => ready later (List.mem_cons_of_mem _ member)

namespace SigmaTrack

variable {s : SigmaTrack A} {i : Nat}

theorem exists_sigma {j : Nat} (inside : j < s.sigmas.size) : ∃ sigma, s.sigma j = .ok sigma :=
  ⟨s.sigmas[j], Halt.entry_eq_ok_iff.mpr (Array.getElem?_eq_getElem inside)⟩

theorem Ready.located_head (ready : s.Ready i (timestep :: rest)) :
    s.located timestep = .ok (i, { s with place := some i }) :=
  ready.located timestep (due_head timestep rest)

theorem Ready.inside (ready : s.Ready i (timestep :: rest)) : i + 1 < s.sigmas.size := by
  have size := ready.size
  rw [List.length_cons] at size
  omega

theorem Ready.sigma_at (ready : s.Ready i rest) : ∃ sigma, s.sigma i = .ok sigma :=
  exists_sigma (by rw [← ready.size]; omega)

theorem Ready.sigma_after (ready : s.Ready i (timestep :: rest)) :
    ∃ sigma, s.sigma (i + 1) = .ok sigma :=
  exists_sigma ready.inside

/-- Once its place is known, a pass stays ready. -/
theorem Ready.placed (ready : s.Ready i rest) : Ready { s with place := some i } i rest :=
  ⟨ready.size, fun _ _ => rfl⟩

theorem Ready.moved (ready : s.Ready i (timestep :: rest)) :
    Ready (moved { s with place := some i }) (i + 1) rest := by
  refine ⟨?_, fun _ _ => rfl⟩
  have size := ready.size
  rw [List.length_cons] at size
  change i + 1 + rest.length + 1 = s.sigmas.size
  omega

theorem Ready.scaleInput (B : Backend A σ τ) (sample : τ) (ready : s.Ready i rest)
    (due : Due timestep rest) :
    ∃ factor, (scaleInput B sample timestep).threaded s =
      B.scale sample factor >>= fun scaled => pure (scaled, { s with place := some i }) := by
  obtain ⟨sigma, found⟩ := ready.sigma_at
  have here : SigmaTrack.sigma { s with place := some i } i = .ok sigma := found
  refine ⟨A.narrow (1 / A.sqrt (sigma * sigma + 1)), ?_⟩
  rw [threaded_scaleInput, ready.located timestep due, Action.ofExcept_ok, pure_bind]
  dsimp only
  rw [here, Action.ofExcept_ok, pure_bind]

end SigmaTrack

namespace LinearMultistep

/-- The weights reach back over no more sigmas than there are behind the place. -/
theorem coefficient_eq {sigmas : Array A.Wide} {sigma : Nat → A.Wide} {order i k : Nat}
    (entries : ∀ j, j < sigmas.size → Halt.entry sigmas j = .ok (sigma j))
    (behind : order ≤ i + 1) (inside : i + 1 < sigmas.size) (below : k < order) :
    coefficient sigmas order i k = .ok (simpson
      (basis (sigma (i - k)) (((List.range order).filter (· ≠ k)).map fun j => sigma (i - j)))
      (sigma i) (sigma (i + 1)) parts) := by
  -- `coefficient` refuses to look further back than the first sigma.
  let back (j : Nat) : Except Halt A.Wide :=
    if j ≤ i then Halt.entry sigmas (i - j) else .error .overflow
  have backs : ∀ j, j < order → back j = .ok (sigma (i - j)) := fun j here =>
    (if_pos (by omega)).trans (entries (i - j) (by omega))
  have others : ((List.range order).filter (· ≠ k)).mapM back =
      .ok (((List.range order).filter (· ≠ k)).map fun j => sigma (i - j)) :=
    Halt.mapM_eq_ok fun j member => backs j (List.mem_range.mp (List.mem_filter.mp member).1)
  unfold coefficient
  rw [entries i (Nat.lt_of_succ_lt inside), Halt.bind_ok, entries (i + 1) inside, Halt.bind_ok]
  change (((List.range order).filter (· ≠ k)).mapM back >>= fun others =>
    back k >>= fun node => pure (simpson (basis node others) _ _ parts)) = _
  rw [others, Halt.bind_ok, backs k below]
  rfl

theorem exists_coefficient {sigmas : Array A.Wide} {order i k : Nat} (behind : order ≤ i + 1)
    (inside : i + 1 < sigmas.size) (below : k < order) :
    ∃ weight, coefficient sigmas order i k = .ok weight := by
  have entries : ∀ j, j < sigmas.size →
      Halt.entry sigmas j = .ok (sigmas.getD j (A.wideOfNat 0)) := fun j here =>
    Halt.entry_eq_ok_iff.mpr (by simp [Array.getD, here])
  exact ⟨_, coefficient_eq entries behind inside below⟩

/-- Without a next sigma there is no interval to integrate over. -/
theorem coefficient_beyond {sigmas : Array A.Wide} {i : Nat} (short : sigmas.size ≤ i + 1)
    (order k : Nat) : coefficient sigmas order i k = .error .indexOutOfRange := by
  unfold coefficient
  rw [Halt.entry_beyond short]
  by_cases inside : i < sigmas.size
  · rw [Halt.entry_eq_ok_iff.mpr (Array.getElem?_eq_getElem inside)]
    rfl
  · rw [Halt.entry_beyond (Nat.le_of_not_lt inside)]
    rfl

/-- The weights of a step from a place, one for each derivative that counts there. -/
def weights (s : LinearMultistep A τ) (i : Nat) : Except Halt (List A.Elem) :=
  let order := min (min (i + 1) memory) s.derivatives.length
  (List.range order).mapM fun k => A.narrow <$> coefficient s.track.sigmas order i k

theorem exists_weights {s : LinearMultistep A τ} {i : Nat}
    (inside : i + 1 < s.track.sigmas.size) : ∃ weights, s.weights i = .ok weights := by
  refine Halt.exists_mapM fun k member => ?_
  obtain ⟨weight, computed⟩ := exists_coefficient (by omega) inside (List.mem_range.mp member)
  exact ⟨A.narrow weight, by rw [computed]; rfl⟩

/-- The newest derivative counts. -/
theorem exists_cons_of_weights {s : LinearMultistep A τ} {i : Nat} {weights : List A.Elem}
    (some : s.derivatives ≠ []) (weighed : s.weights i = .ok weights) :
    ∃ weight rest, weights = weight :: rest := by
  obtain ⟨order, counted⟩ := exists_order i some
  rw [LinearMultistep.weights, counted, List.range_succ_eq_map] at weighed
  obtain ⟨weight, rest, -, -, same⟩ := Halt.of_mapM_cons weighed
  exact ⟨weight, rest, same⟩

end LinearMultistep

/-! ### One step over a backend that keeps to a contract -/

namespace Contract

variable {B : Backend A σ τ} (C : Contract B) {w : C.World} {output sample newest : τ}
  {older : List τ}

theorem drawn_cleanAndNoise (predicts : PredictionType) (alpha : A.Wide)
    (outputFits : C.Fits w output) (sampleFits : C.Fits w sample) :
    C.Meets w (cleanAndNoise B predicts alpha output sample) fun w' pair =>
      C.Drawn w [output] w' pair.1 ∧ C.Drawn w [output] w' pair.2 := by
  cases predicts with
  | epsilon =>
      refine C.meets_map (C.drawn_weightedPair _ _ sampleFits outputFits) ?_
      intro w' clean leads drawn
      exact ⟨drawn.mono (by simp), C.fits_of_leads leads outputFits,
        List.forall_mem_singleton.mpr (C.fed_of_leads leads)⟩
  | vPrediction =>
      refine C.meets_bind (C.drawn_weightedPair _ _ sampleFits outputFits) ?_
      intro w₁ clean leads₁ first
      refine C.meets_map (C.drawn_weightedPair _ _ (C.fits_of_leads leads₁ outputFits)
        (C.fits_of_leads leads₁ sampleFits)) ?_
      intro w₂ noise leads₂ second
      exact ⟨(first.later leads₂).mono (by simp), (second.of_leads leads₁).mono (by simp)⟩

theorem drawn_ddim_advance {s : Ddim A} (back : C.Bears (s.line.next (A.truncate timestep)))
    (outputFits : C.Fits w output) (sampleFits : C.Fits w sample) :
    C.Meets w (s.advance B output timestep sample) (C.Drawn w [output]) := by
  refine back.bind fun earlier _ => ?_
  refine C.meets_bind (C.drawn_cleanAndNoise _ _ outputFits sampleFits) ?_
  rintro w₁ ⟨clean, noise⟩ leads ⟨cleanDrawn, noiseDrawn⟩
  refine C.meets_imp (C.drawn_weightedPair _ _ cleanDrawn.fits noiseDrawn.fits) ?_
  intro w₂ previous _ drawn
  have last : C.Drawn w₁ [clean] w₂ previous := drawn.mono (by simp)
  exact cleanDrawn.trans leads last

theorem drawn_addNoise {seed : UInt64} {deviation : A.Elem} {mean : τ} (meanFits : C.Fits w mean)
    (sampleFits : C.Fits w sample) :
    C.Meets w (Ddpm.addNoise B seed deviation mean sample) (C.Drawn w [mean]) := by
  refine C.meets_bind (C.meets_noise seed sampleFits) fun w₁ noise leads₁ noiseFits => ?_
  refine C.meets_bind (C.drawn_scale deviation noiseFits) fun w₂ scaled leads₂ second => ?_
  refine C.meets_imp (C.drawn_add
    (C.fits_of_leads leads₂ (C.fits_of_leads leads₁ meanFits)) second.fits) ?_
  intro w₃ sum _ drawn
  exact ((drawn.of_leads leads₂).of_leads leads₁).mono (by simp)

theorem drawn_ddpm_advance {s : Ddpm A} (back : C.Bears (s.line.next (A.truncate timestep)))
    (outputFits : C.Fits w output) (sampleFits : C.Fits w sample) :
    C.Meets w (s.advance B output timestep sample) (C.Drawn w [output]) := by
  refine back.bind fun earlier _ => ?_
  refine C.meets_bind (C.drawn_cleanAndNoise _ _ outputFits sampleFits) ?_
  rintro w₁ ⟨clean, _⟩ leads₁ ⟨first, -⟩
  have sampleFits := C.fits_of_leads leads₁ sampleFits
  refine C.meets_bind (C.drawn_weightedPair _ _ first.fits sampleFits) ?_
  intro w₂ mean leads₂ second
  have meanDrawn : C.Drawn w₁ [clean] w₂ mean := second.mono (by simp)
  split
  · refine C.meets_imp (C.drawn_addNoise second.fits (C.fits_of_leads leads₂ sampleFits)) ?_
    intro w₃ previous _ third
    exact first.trans leads₁ (meanDrawn.trans leads₂ third)
  · exact C.meets_pure (first.trans leads₁ meanDrawn)

theorem drawn_combined (fit : ∀ output ∈ newest :: older, C.Fits w output) :
    C.Meets w (Pndm.combined B (newest :: older)) (C.Drawn w [newest]) := by
  obtain ⟨first, others⟩ := List.forall_mem_cons.mp fit
  match older with
  | [] => exact C.drawn_pure first
  | second :: older =>
      have summed : ∀ (weight : A.Elem) (weights : List A.Elem), C.Meets w
          (B.weightedSum ((weight, newest) :: weights.zip (second :: older)))
          (C.Drawn w [newest]) := by
        intro weight weights
        refine C.meets_imp (C.drawn_weightedSum first fun term member =>
          others term.2 (List.of_mem_zip member).2) ?_
        intro w' sum _ drawn
        exact drawn.mono (by simp)
      match older with
      | [] => exact summed (3 / 2) [-1 / 2]
      | [_] => exact summed (23 / 12) [-16 / 12, 5 / 12]
      | _ :: _ :: _ => exact summed (55 / 24) [-59 / 24, 37 / 24, -9 / 24]

theorem drawn_pndm_advance {line : Timeline A}
    (back : C.Bears (line.next (A.truncate timestep)))
    (fit : ∀ output ∈ newest :: older, C.Fits w output) (sampleFits : C.Fits w sample) :
    C.Meets w (Pndm.advance B ⟨line, newest :: older⟩ timestep sample) (C.Drawn w [newest]) := by
  refine back.bind fun earlier _ => ?_
  refine C.meets_bind (C.drawn_combined fit) fun w₁ output leads₁ first => ?_
  have sampleFits := C.fits_of_leads leads₁ sampleFits
  have noises : ∀ alpha, C.Meets w₁ (Pndm.noiseOf B line.schedule.config.predictionType alpha
      output sample) (C.Drawn w₁ [output]) := by
    intro alpha
    cases line.schedule.config.predictionType with
    | epsilon => exact C.drawn_pure first.fits
    | vPrediction =>
        refine C.meets_imp (C.drawn_weightedPair _ _ first.fits sampleFits) ?_
        intro w' noise _ drawn
        exact drawn.mono (by simp)
  refine C.meets_bind (noises _) fun w₂ noise leads₂ second => ?_
  refine C.meets_imp (C.drawn_weightedPair _ _ (C.fits_of_leads leads₂ sampleFits) second.fits) ?_
  intro w₃ previous _ third
  have last : C.Drawn w₂ [noise] w₃ previous := third.mono (by simp)
  exact first.trans leads₁ (second.trans leads₂ last)

theorem drawn_derivative {s : SigmaTrack A} (sigma : A.Wide) (outputFits : C.Fits w output)
    (sampleFits : C.Fits w sample) :
    C.Meets w (s.derivative B sigma output sample) (C.Drawn w [output]) := by
  have cleans : C.Meets w (SigmaTrack.cleanSample B s.schedule.config.predictionType sigma output
      sample) (C.Drawn w [output]) := by
    cases s.schedule.config.predictionType with
    | epsilon =>
        refine C.meets_imp (C.drawn_weightedPair _ _ sampleFits outputFits) ?_
        intro w' clean _ drawn
        exact drawn.mono (by simp)
    | vPrediction =>
        refine C.meets_imp (C.drawn_weightedPair _ _ outputFits sampleFits) ?_
        intro w' clean _ drawn
        exact drawn.mono (by simp)
  refine C.meets_bind cleans fun w₁ clean leads₁ first => ?_
  refine C.meets_bind (C.drawn_sub (C.fits_of_leads leads₁ sampleFits) first.fits) ?_
  intro w₂ distance leads₂ second
  refine C.meets_imp (C.drawn_scale _ second.fits) fun w₃ derivative _ third => ?_
  have apart : C.Drawn w₁ [clean] w₂ distance := second.mono (by simp)
  exact first.trans leads₁ (apart.trans leads₂ third)

theorem drawn_euler_advance {s : SigmaTrack A} {i : Nat} (here : C.Bears (s.sigma i))
    (next : C.Bears (s.sigma (i + 1))) (outputFits : C.Fits w output)
    (sampleFits : C.Fits w sample) :
    C.Meets w (Euler.advance B s i output sample) (C.Drawn w [output]) := by
  refine here.bind fun start _ => next.bind fun stop _ => ?_
  refine C.meets_bind (C.drawn_derivative start outputFits sampleFits) ?_
  intro w₁ derivative leads first
  refine C.meets_imp (C.drawn_weightedPair _ _ (C.fits_of_leads leads sampleFits) first.fits) ?_
  intro w₂ previous _ second
  have last : C.Drawn w₁ [derivative] w₂ previous := second.mono (by simp)
  exact first.trans leads last

theorem drawn_eulerAncestral_advance {s : SigmaTrack A} {i : Nat} (seed : UInt64)
    (here : C.Bears (s.sigma i)) (next : C.Bears (s.sigma (i + 1)))
    (outputFits : C.Fits w output) (sampleFits : C.Fits w sample) :
    C.Meets w (EulerAncestral.advance B seed s i output sample) (C.Drawn w [output]) := by
  refine here.bind fun start _ => next.bind fun stop _ => ?_
  refine C.meets_bind (C.drawn_derivative start outputFits sampleFits) ?_
  intro w₁ derivative leads₁ first
  have sampleFits := C.fits_of_leads leads₁ sampleFits
  refine C.meets_bind (C.drawn_weightedPair _ _ sampleFits first.fits) ?_
  intro w₂ lowered leads₂ second
  have loweredDrawn : C.Drawn w₁ [derivative] w₂ lowered := second.mono (by simp)
  split
  · refine C.meets_imp (C.drawn_addNoise second.fits (C.fits_of_leads leads₂ sampleFits)) ?_
    intro w₃ previous _ third
    exact first.trans leads₁ (loweredDrawn.trans leads₂ third)
  · exact C.meets_pure (first.trans leads₁ loweredDrawn)

theorem drawn_linearMultistep_advance {track : SigmaTrack A} {i : Nat}
    (weighs : C.Bears (LinearMultistep.weights ⟨track, newest :: older⟩ i))
    (fit : ∀ derivative ∈ newest :: older, C.Fits w derivative) (sampleFits : C.Fits w sample) :
    C.Meets w (LinearMultistep.advance B ⟨track, newest :: older⟩ i sample)
      (C.Drawn w [newest]) := by
  refine weighs.bind fun weights weighed => ?_
  obtain ⟨weight, weights, rfl⟩ :=
    LinearMultistep.exists_cons_of_weights (List.cons_ne_nil _ _) weighed
  refine C.meets_imp (C.drawn_weightedSum sampleFits fun term member =>
    fit term.2 (List.of_mem_zip member).2) ?_
  intro w' previous _ drawn
  exact drawn.mono (by simp)

/-- Remembering one more that fits, with room for some. -/
theorem forall_mem_remembered {fits : τ → Prop} (count : Nat) (here : fits newest)
    (fit : ∀ x ∈ older, fits x) : ∀ x ∈ (newest :: older).take count, fits x :=
  fun _ member => List.forall_mem_cons.mpr ⟨here, fit⟩ _ (List.mem_of_mem_take member)

/-- A step at the timestep that is due succeeds as far as the backend does, its result is fed by
what feeds the output, and the scheduler is ready for the timesteps after it. -/
theorem meets_step {scheduler : Scheduler A τ}
    (ready : scheduler.ReadyFor (C.Fits w) (timestep :: rest)) (outputFits : C.Fits w output)
    (sampleFits : C.Fits w sample) :
    C.Meets w ((Scheduler.step B output timestep sample).threaded scheduler) fun w' stepped =>
      C.Drawn w [output] w' stepped.1 ∧ stepped.2.ReadyFor (C.Fits w') rest := by
  cases ready with
  | @pndm s line outputs =>
      have fit : ∀ x ∈ (s.remember output).outputs, C.Fits w x :=
        forall_mem_remembered Pndm.memory outputFits outputs
      rw [Scheduler.threaded_step_pndm, Pndm.threaded_step, bind_assoc]
      exact C.meets_map (C.drawn_pndm_advance (.inr (line timestep List.mem_cons_self)) fit
        sampleFits) fun w' _ leads drawn =>
        ⟨drawn, .pndm line.tail fun x member => C.fits_of_leads leads (fit x member)⟩
  | ddim line =>
      rw [Scheduler.threaded_step_ddim, Ddim.threaded_step, bind_assoc]
      exact C.meets_map (C.drawn_ddim_advance (.inr (line timestep List.mem_cons_self)) outputFits
        sampleFits) fun _ _ _ drawn =>
        ⟨drawn, .ddim line.tail⟩
  | ddpm line =>
      rw [Scheduler.threaded_step_ddpm, Ddpm.threaded_step, bind_assoc]
      exact C.meets_map (C.drawn_ddpm_advance (.inr (line timestep List.mem_cons_self)) outputFits
        sampleFits) fun _ _ _ drawn =>
        ⟨drawn, .ddpm line.tail⟩
  | euler track =>
      rw [Scheduler.threaded_step_euler, Euler.threaded_step, bind_assoc]
      refine C.meets_ofExcept_bind track.located_head ?_
      rw [bind_assoc]
      exact C.meets_map (C.drawn_euler_advance (.inr track.sigma_at) (.inr track.sigma_after)
        outputFits sampleFits) fun _ _ _ drawn => ⟨drawn, .euler track.moved⟩
  | @eulerAncestral s _ track =>
      rw [Scheduler.threaded_step_eulerAncestral, EulerAncestral.threaded_step, bind_assoc]
      refine C.meets_ofExcept_bind track.located_head ?_
      rw [bind_assoc]
      exact C.meets_map (C.drawn_eulerAncestral_advance s.seed (.inr track.sigma_at)
        (.inr track.sigma_after) outputFits sampleFits) fun _ _ _ drawn =>
        ⟨drawn, .eulerAncestral track.moved⟩
  | @linearMultistep s i track derivatives =>
      rw [Scheduler.threaded_step_linearMultistep, LinearMultistep.threaded_step, bind_assoc]
      refine C.meets_ofExcept_bind track.located_head ?_
      obtain ⟨sigma, found⟩ := track.placed.sigma_at
      rw [bind_assoc]
      refine C.meets_ofExcept_bind found ?_
      rw [bind_assoc]
      refine C.meets_bind (C.drawn_derivative sigma outputFits sampleFits) ?_
      intro w₁ derivative leads₁ first
      let s' := LinearMultistep.remember
        { s with track := { s.track with place := some i } } derivative
      have fit : ∀ x ∈ s'.derivatives, C.Fits w₁ x :=
        forall_mem_remembered LinearMultistep.memory first.fits fun x member =>
          C.fits_of_leads leads₁ (derivatives x member)
      rw [bind_assoc]
      refine C.meets_map (C.drawn_linearMultistep_advance
        (.inr (LinearMultistep.exists_weights track.inside)) fit
        (C.fits_of_leads leads₁ sampleFits)) ?_
      intro w₂ previous leads₂ second
      exact ⟨first.trans leads₁ second,
        .linearMultistep track.moved fun x member => C.fits_of_leads leads₂ (fit x member)⟩

/-! ### Any scheduler, where failures are forgiven -/

section Forgiven

variable (forgiving : C.Forgiving) (fit : ∀ w x, C.Fits w x) (scheduler : Scheduler A τ)

include forgiving fit

theorem drawn_scaleInput (timestep : A.Elem) :
    C.Meets w ((Scheduler.scaleInput B sample timestep).threaded scheduler) fun w' scaled =>
      C.Drawn w [sample] w' scaled.1 := by
  have same (placed : Scheduler A τ) : C.Meets w (pure (sample, placed)) fun w' scaled =>
      C.Drawn w [sample] w' scaled.1 :=
    C.meets_pure ⟨fit w sample, List.forall_mem_singleton.mpr id⟩
  have tracks (track : SigmaTrack A) (put : SigmaTrack A → Scheduler A τ) :
      C.Meets w ((SigmaTrack.scaleInput B sample timestep).threaded track >>= fun scaled =>
        pure (scaled.1, put scaled.2)) fun w' scaled => C.Drawn w [sample] w' scaled.1 := by
    rw [SigmaTrack.threaded_scaleInput, bind_assoc]
    refine Bears.bind (.inl forgiving) fun ⟨i, placed⟩ _ => ?_
    rw [bind_assoc]
    refine Bears.bind (.inl forgiving) fun sigma _ => ?_
    rw [bind_assoc]
    exact C.meets_map (C.drawn_scale _ (fit w sample)) fun _ _ _ drawn => drawn
  cases scheduler with
  | pndm | ddim | ddpm => exact same _
  | euler s =>
      rw [Scheduler.threaded_scaleInput_euler]
      exact tracks s.track fun track => .euler ⟨track⟩
  | eulerAncestral s =>
      rw [Scheduler.threaded_scaleInput_eulerAncestral]
      exact tracks s.track fun track => .eulerAncestral { s with track }
  | linearMultistep s =>
      rw [Scheduler.threaded_scaleInput_linearMultistep]
      exact tracks s.track fun track => .linearMultistep { s with track }

/-- Whatever state the scheduler is in, what its step yields is fed by what feeds the output. -/
theorem drawn_step (output sample : τ) (timestep : A.Elem) :
    C.Meets w ((Scheduler.step B output timestep sample).threaded scheduler) fun w' stepped =>
      C.Drawn w [output] w' stepped.1 := by
  have all (w : C.World) (xs : List τ) : ∀ x ∈ xs, C.Fits w x := fun x _ => fit w x
  cases scheduler with
  | pndm s =>
      rw [Scheduler.threaded_step_pndm, Pndm.threaded_step, bind_assoc]
      exact C.meets_map (C.drawn_pndm_advance (.inl forgiving) (all w _) (fit w sample))
        fun _ _ _ drawn => drawn
  | ddim s =>
      rw [Scheduler.threaded_step_ddim, Ddim.threaded_step, bind_assoc]
      exact C.meets_map (C.drawn_ddim_advance (.inl forgiving) (fit w output) (fit w sample))
        fun _ _ _ drawn => drawn
  | ddpm s =>
      rw [Scheduler.threaded_step_ddpm, Ddpm.threaded_step, bind_assoc]
      exact C.meets_map (C.drawn_ddpm_advance (.inl forgiving) (fit w output) (fit w sample))
        fun _ _ _ drawn => drawn
  | euler s =>
      rw [Scheduler.threaded_step_euler, Euler.threaded_step, bind_assoc]
      refine Bears.bind (.inl forgiving) fun ⟨i, placed⟩ _ => ?_
      rw [bind_assoc]
      exact C.meets_map (C.drawn_euler_advance (.inl forgiving) (.inl forgiving) (fit w output)
        (fit w sample)) fun _ _ _ drawn => drawn
  | eulerAncestral s =>
      rw [Scheduler.threaded_step_eulerAncestral, EulerAncestral.threaded_step, bind_assoc]
      refine Bears.bind (.inl forgiving) fun ⟨i, placed⟩ _ => ?_
      rw [bind_assoc]
      exact C.meets_map (C.drawn_eulerAncestral_advance s.seed (.inl forgiving) (.inl forgiving)
        (fit w output) (fit w sample)) fun _ _ _ drawn => drawn
  | linearMultistep s =>
      rw [Scheduler.threaded_step_linearMultistep, LinearMultistep.threaded_step, bind_assoc]
      refine Bears.bind (.inl forgiving) fun ⟨i, placed⟩ _ => ?_
      rw [bind_assoc]
      refine Bears.bind (.inl forgiving) fun sigma _ => ?_
      rw [bind_assoc]
      refine C.meets_bind (C.drawn_derivative sigma (fit w output) (fit w sample)) ?_
      intro w₁ derivative leads first
      rw [bind_assoc]
      refine C.meets_map (C.drawn_linearMultistep_advance (.inl forgiving) (all w₁ _)
        (fit w₁ sample)) ?_
      exact fun _ _ _ second => first.trans leads second

end Forgiven

end Contract

namespace Scheduler

/-- At the timestep that is due the input of the network is the sample itself or a multiple of it,
and the scheduler stays ready. -/
theorem ReadyFor.scaleInput {fits : τ → Prop} {scheduler : Scheduler A τ} (B : Backend A σ τ)
    (sample : τ) (ready : scheduler.ReadyFor fits rest) (due : Due timestep rest) :
    ∃ placed, placed.ReadyFor fits rest ∧ placed.id = scheduler.id ∧
      ((scaleInput B sample timestep).threaded scheduler = pure (sample, placed) ∨
        ∃ factor, (scaleInput B sample timestep).threaded scheduler =
          B.scale sample factor >>= fun scaled => pure (scaled, placed)) := by
  cases ready with
  | pndm line outputs => exact ⟨_, .pndm line outputs, rfl, .inl rfl⟩
  | ddim line => exact ⟨_, .ddim line, rfl, .inl rfl⟩
  | ddpm line => exact ⟨_, .ddpm line, rfl, .inl rfl⟩
  | euler track =>
      obtain ⟨factor, scaled⟩ := track.scaleInput B sample due
      refine ⟨_, .euler track.placed, rfl, .inr ⟨factor, ?_⟩⟩
      rw [threaded_scaleInput_euler, scaled, bind_assoc]
      rfl
  | @eulerAncestral s i track =>
      obtain ⟨factor, scaled⟩ := track.scaleInput B sample due
      let placed : EulerAncestral A := { s with track := { s.track with place := some i } }
      refine ⟨.eulerAncestral placed, .eulerAncestral track.placed, rfl,
        .inr ⟨factor, ?_⟩⟩
      rw [threaded_scaleInput_eulerAncestral, scaled, bind_assoc]
      rfl
  | @linearMultistep s i track derivatives =>
      obtain ⟨factor, scaled⟩ := track.scaleInput B sample due
      let placed : LinearMultistep A τ :=
        { s with track := { s.track with place := some i } }
      refine ⟨.linearMultistep placed, .linearMultistep track.placed derivatives, rfl,
        .inr ⟨factor, ?_⟩⟩
      rw [threaded_scaleInput_linearMultistep, scaled, bind_assoc]
      rfl

/-! ### Tensors -/

variable {network : Option (Network A ν)} {shape : Shape} {output sample : Tensor A.Elem}
  {scheduler : Scheduler A (Tensor A.Elem)}

theorem Ready.scaleInput (network : Option (Network A ν)) (sample : Tensor A.Elem)
    (ready : scheduler.Ready shape rest) (due : Due timestep rest) :
    ((scaleInput (.eager network) sample timestep).threaded scheduler).Yields fun scaled =>
      (scaled.1 = sample ∨ ∃ factor, scaled.1 = sample.scale factor) ∧
        scaled.2.Ready shape rest ∧ scaled.2.id = scheduler.id := by
  obtain ⟨placed, still, kind, same | ⟨factor, scaled⟩⟩ :=
    ReadyFor.scaleInput (.eager network) sample ready due
  · rw [same]
    exact Action.yields_pure ⟨.inl rfl, still, kind⟩
  · rw [scaled]
    exact Action.yields_pure ⟨.inr ⟨factor, rfl⟩, still, kind⟩

theorem Ready.step (ready : scheduler.Ready shape (timestep :: rest))
    (outputShape : output.shape = shape) (sampleShape : sample.shape = shape) :
    ((step (.eager network) output timestep sample).threaded scheduler).Yields fun stepped =>
      stepped.1.shape = shape ∧ stepped.2.Ready shape rest := by
  have meets := (Backend.elementwise network shape).meets_step (w := ()) ready outputShape
    sampleShape
  exact meets.imp fun _ stepped => ⟨stepped.1.fits, stepped.2⟩

end Scheduler

end Diffusion
